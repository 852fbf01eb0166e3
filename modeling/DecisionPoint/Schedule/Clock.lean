import DecisionPoint.Schedule.Activity

/-!
# Running activities on one clock

Activities run one at a time, in the order in which they became able to.  The clock stands still
while any of them can run, and then moves to the next time at which one can.  A caller's own
activity goes first when it begins and when the clock has moved, and otherwise after all others.
-/

set_option autoImplicit false

namespace DecisionPoint

/-- The service and what goes on in it. -/
structure Schedule where
  now : Nat
  service : Service
  surroundings : Surroundings
  ready : List (Nat × Activity)
  waiting : List (Nat × Activity)
  answers : List (Nat × Answer)
  nextTask : Nat
deriving Inhabited

namespace Schedule

def start (service : Service) (surroundings : Surroundings) : Schedule :=
  ⟨0, service, surroundings, [], [], [], 0⟩

def add (schedule : Schedule) (activity : Activity) : Nat × Schedule :=
  (schedule.nextTask,
    { schedule with
      ready := schedule.ready ++ [(schedule.nextTask, activity)]
      nextTask := schedule.nextTask + 1 })

/-- Moves waiting activities that can go on to those that can run. -/
def promote (schedule : Schedule) : Schedule :=
  let (able, waiting) :=
    schedule.waiting.partition fun task => task.2.canGoOn schedule.service schedule.now
  { schedule with ready := schedule.ready ++ able, waiting := waiting }

/-- Takes over the service after a run, with what it has set going. -/
def absorb (schedule : Schedule) (service : Service) : Schedule :=
  let schedule := { schedule with service := { service with spawned := [] } }
  service.spawned.foldl (fun schedule spawned => (schedule.add spawned.activity).2) schedule

/-- Keeps the answer of an activity, unless nobody waits for it. -/
def keep (schedule : Schedule) (number : Nat) : Answer → Schedule
  | .ended => schedule
  | answer => { schedule with answers := schedule.answers ++ [(number, answer)] }

def runTask (schedule : Schedule) (number : Nat) (activity : Activity) : Schedule :=
  match activity.run schedule.service schedule.surroundings schedule.now with
  | (service, .done answer) => ((schedule.absorb service).keep number answer).promote
  | (service, .waiting activity) =>
    let schedule := schedule.absorb service
    { schedule with waiting := schedule.waiting ++ [(number, activity)] }.promote

def nextWake (schedule : Schedule) (caller : Activity) : Option Nat :=
  schedule.waiting.foldl (fun time task => earlier time task.2.wake) caller.wake

def moveTo (schedule : Schedule) (time : Nat) : Schedule :=
  { schedule with now := max schedule.now time }.promote

def settle (schedule : Schedule) : Nat → Schedule
  | 0 => schedule
  | fuel + 1 =>
    match schedule.ready with
    | [] => schedule
    | (number, activity) :: ready =>
      settle ({ schedule with ready := ready }.runTask number activity) fuel

/-- Moves the clock forward until something can go on, unless the caller can. -/
def awaitAny (schedule : Schedule) (caller : Activity) : Option Schedule :=
  if caller.canGoOn schedule.service schedule.now then some schedule
  else (schedule.nextWake caller).map schedule.moveTo

/-- Runs a caller's waiting activity to its end among the others, and the others with it. -/
def attend (schedule : Schedule) (caller : Activity) : Nat → Schedule × Option Answer
  | 0 => (schedule, none)
  | fuel + 1 =>
    match schedule.ready with
    | (number, activity) :: ready =>
      attend ({ schedule with ready := ready }.runTask number activity) caller fuel
    | [] =>
      match schedule.awaitAny caller with
      | none => (schedule, none)
      | some schedule =>
        if caller.canGoOn schedule.service schedule.now then
          match caller.run schedule.service schedule.surroundings schedule.now with
          | (service, .done answer) => ((schedule.absorb service).promote, some answer)
          | (service, .waiting caller) => attend (schedule.absorb service).promote caller fuel
        else attend schedule caller fuel

/-- Begins and ends a caller's activity, and lets everything run that can run then. -/
def perform (schedule : Schedule) (caller : Activity) (fuel : Nat) : Schedule × Option Answer :=
  let (schedule, answer) :=
    match caller.run schedule.service schedule.surroundings schedule.now with
    | (service, .done answer) => ((schedule.absorb service).promote, some answer)
    | (service, .waiting caller) => attend (schedule.absorb service).promote caller fuel
  (schedule.settle fuel, answer)

/-- Sets an activity going beside the caller and lets everything run that can run. -/
def launch (schedule : Schedule) (activity : Activity) (fuel : Nat) : Nat × Schedule :=
  let (number, schedule) := schedule.add activity
  (number, schedule.settle fuel)

end Schedule

end DecisionPoint
