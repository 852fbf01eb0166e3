import DecisionPoint.Shutdown.Connections
import DecisionPoint.Shutdown.Signal

/-!
# Rehearsals of closing down

A signal and some connections on a clock, with what is to happen to them later.  The clock moves
only while somebody waits.
-/

set_option autoImplicit false

namespace DecisionPoint

inductive Planned where
  | trigger
  | release
deriving DecidableEq, Repr, Inhabited

/-- A signal and connections on a clock. -/
structure Closing where
  now : Nat
  signal : ShutdownSignal
  connections : Connections
  held : List Nat
  next : Nat
  plan : List (Nat × Planned)
deriving Inhabited

namespace Closing

def start : Closing := ⟨0, .new, .empty, [], 0, []⟩

def occur (closing : Closing) : Planned → Closing
  | .trigger => { closing with signal := closing.signal.trigger }
  | .release => { closing with connections := closing.connections.release }

def insertPlanned (time : Nat) (planned : Planned) : List (Nat × Planned) → List (Nat × Planned)
  | [] => [(time, planned)]
  | (other, first) :: rest =>
    if time < other then (time, planned) :: (other, first) :: rest
    else (other, first) :: insertPlanned time planned rest

def settle (closing : Closing) : Closing :=
  let (due, later) := closing.plan.span fun item => item.1 ≤ closing.now
  due.foldl (fun closing item => closing.occur item.2) { closing with plan := later }

def planAfter (closing : Closing) (millis : Nat) (planned : Planned) : Closing :=
  { closing with plan := insertPlanned (closing.now + millis) planned closing.plan }.settle

def trigger (closing : Closing) : Closing :=
  closing.occur .trigger

def track (closing : Closing) : Closing × Nat :=
  ({ closing with
      connections := closing.connections.track
      held := closing.held ++ [closing.next]
      next := closing.next + 1 },
    closing.next)

def letGo (closing : Closing) (number : Nat) : Closing × Bool :=
  ({ closing with held := closing.held.filter (· ≠ number) }, closing.held.contains number)

def release (closing : Closing) (number : Nat) : Closing × Bool :=
  match closing.letGo number with
  | (closing, true) => (closing.occur .release, true)
  | (closing, false) => (closing, false)

def releaseAfter (closing : Closing) (number millis : Nat) : Closing :=
  match closing.letGo number with
  | (closing, true) => closing.planAfter millis .release
  | (closing, false) => closing

def moveTo (closing : Closing) (time : Nat) : Closing :=
  { closing with now := max closing.now time }

/-- Lets planned things happen one after another until a wait has a result, at the latest at its
deadline. -/
def waitUntil {β : Type} (deadline : Nat) (result? : Closing → Option β) (closing : Closing) :
    List (Nat × Planned) → Closing × Option β
  | [] =>
    match result? closing with
    | some result => ({ closing with plan := [] }, some result)
    | none =>
      let closing := { closing.moveTo deadline with plan := [] }
      (closing, result? closing)
  | (time, planned) :: rest =>
    match result? closing with
    | some result => ({ closing with plan := (time, planned) :: rest }, some result)
    | none =>
      -- One who waits is served before anything else that is due at the deadline.
      if deadline ≤ time then
        let closing := { closing.moveTo deadline with plan := (time, planned) :: rest }
        (closing, result? closing)
      else waitUntil deadline result? ((closing.moveTo time).occur planned) rest

def receive (closing : Closing) (millis : Nat) : Closing × Bool :=
  let arrival (closing : Closing) : Option Unit :=
    if closing.signal.hasArrived then some () else none
  let (closing, result) := waitUntil (closing.now + millis) arrival closing closing.plan
  (closing.settle, result.isSome)

def drain (closing : Closing) (millis : Nat) : Closing × Bool :=
  match (Drain.start millis closing.now).poll closing.connections closing.now with
  | .done closed => (closing, closed)
  | .waiting drain =>
    let result? (closing : Closing) : Option Bool :=
      (drain.poll closing.connections closing.now).result?
    let (closing, closed) := waitUntil drain.deadline result? closing closing.plan
    (closing.settle, closed.getD false)

end Closing

end DecisionPoint
