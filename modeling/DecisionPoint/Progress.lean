/-!
# Activities that wait

An activity runs until it ends or has to wait.  While it waits it is data: the phase it is in.
-/

set_option autoImplicit false

namespace DecisionPoint

/-- What came of running an activity for a while. -/
inductive Progress (α φ : Type) where
  | done (result : α)
  | waiting (phase : φ)
deriving DecidableEq, Repr, Inhabited

namespace Progress

variable {α β φ ψ : Type}

def map (f : α → β) (g : φ → ψ) : Progress α φ → Progress β ψ
  | done result => done (f result)
  | waiting phase => waiting (g phase)

def isDone : Progress α φ → Bool
  | done _ => true
  | waiting _ => false

def result? : Progress α φ → Option α
  | done result => some result
  | waiting _ => none

end Progress

/-- The earlier of two times, either of which may never come. -/
def earlier : Option Nat → Option Nat → Option Nat
  | some a, some b => some (min a b)
  | some a, none => some a
  | none, other => other

def hasCome (now : Nat) : Option Nat → Bool
  | some time => time ≤ now
  | none => false

end DecisionPoint
