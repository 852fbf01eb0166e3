import DecisionPoint.Progress

/-!
# Open connections

The open connections are counted, so that a shutdown can wait until the last one has closed, up to a
limit.  Whoever takes the last one off the count tells those who wait.  A wait first notes how often
that was told and looks at the count after that: what is told between its look and its rest is not
lost on it.
-/

set_option autoImplicit false

namespace DecisionPoint

structure Connections where
  active : Nat
  /-- How often those who wait were told that the last one has closed. -/
  told : Nat
deriving DecidableEq, Repr, Inhabited

namespace Connections

def empty : Connections := ⟨0, 0⟩

def track (connections : Connections) : Connections :=
  { connections with active := connections.active + 1 }

/-- Takes a connection off the count; whether it was the last one. -/
def takeOff (connections : Connections) : Connections × Bool :=
  ({ connections with active := connections.active - 1 }, connections.active = 1)

def tell (connections : Connections) : Connections :=
  { connections with told := connections.told + 1 }

def release (connections : Connections) : Connections :=
  match connections.takeOff with
  | (rest, true) => rest.tell
  | (rest, false) => rest

end Connections

/-- How far a wait for the last connection to close has got. -/
inductive DrainStage where
  | arriving
  | looking (seen : Nat)
  | resting (seen : Nat)
deriving DecidableEq, Repr, Inhabited

/-- A wait for the last connection to close; its result is whether they all have. -/
structure Drain where
  deadline : Nat
  stage : DrainStage
deriving DecidableEq, Repr, Inhabited

namespace Drain

def start (limit now : Nat) : Drain := ⟨now + limit, .arriving⟩

/-- What a wait does before others may come in between. -/
def step (drain : Drain) (connections : Connections) (now : Nat) : Progress Bool Drain :=
  match drain.stage with
  | .arriving => .waiting { drain with stage := .looking connections.told }
  | .looking seen =>
    if connections.active = 0 then .done true else .waiting { drain with stage := .resting seen }
  | .resting seen =>
    if connections.told ≠ seen then .waiting { drain with stage := .arriving }
    else if drain.deadline ≤ now then .done false
    else .waiting drain

def run (connections : Connections) (now : Nat) : Nat → Drain → Progress Bool Drain
  | 0, drain => .waiting drain
  | steps + 1, drain =>
    match drain.step connections now with
    | .done closed => .done closed
    | .waiting drain => run connections now steps drain

/-- Goes on until it ends or rests, which takes no more than five steps. -/
def poll (drain : Drain) (connections : Connections) (now : Nat) : Progress Bool Drain :=
  run connections now 5 drain

end Drain

end DecisionPoint
