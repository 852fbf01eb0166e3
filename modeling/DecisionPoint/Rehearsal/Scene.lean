import DecisionPoint.Schedule.Clock

/-!
# Rehearsals

A scene is a service on its clock together with what was told of it so far.  After each step it
tells the calls, the audit records and the answers that are new.
-/

set_option autoImplicit false

namespace DecisionPoint

/-- A service on its clock, and how much of it was told. -/
structure Scene where
  schedule : Schedule
  toldCalls : Nat
  toldRecords : Nat
  toldAnswers : List Nat
deriving Inhabited

structure News where
  calls : List Call
  records : List AuditRecord
  /-- The answers of activities beside the caller, in the order in which they were launched. -/
  answers : List Answer
deriving Inhabited

namespace Scene

def start (service : Service) (server : ServerOptions) : Scene :=
  ⟨.start service (.json service server false), 0, 0, []⟩

def service (scene : Scene) : Service :=
  scene.schedule.service

def now (scene : Scene) : Nat :=
  scene.schedule.now

/-- How many runs of activities a step may take. -/
def patience : Nat := 10000000

/-- Changes the service, and lets everything run that can run then. -/
def update (scene : Scene) (change : Service → Service) : Scene :=
  let schedule := (scene.schedule.absorb (change scene.service)).promote
  { scene with schedule := schedule.settle patience }

def perform (scene : Scene) (activity : Activity) : Option (Scene × Answer) :=
  match scene.schedule.perform activity patience with
  | (schedule, some answer) => some ({ scene with schedule := schedule }, answer)
  | (_, none) => none

/-- Sets an activity going beside the caller. -/
def launch (scene : Scene) (activity : Activity) : Scene :=
  { scene with schedule := (scene.schedule.launch activity patience).2 }

def changeSource (scene : Scene) (change : ScriptedSource → ScriptedSource) : Scene :=
  scene.update fun service =>
    { service with cache := { service.cache with source := change service.cache.source } }

def news (scene : Scene) : Scene × News :=
  let calls := scene.service.calls
  let records := scene.service.journal.audit
  let answers := scene.schedule.answers
  let fresh := answers.filter fun item => scene.toldAnswers.contains item.1 = false
  ({ scene with
      toldCalls := calls.length
      toldRecords := records.length
      toldAnswers := answers.map Prod.fst },
    ⟨calls.drop scene.toldCalls, records.drop scene.toldRecords,
      (fresh.mergeSort fun a b => a.1 ≤ b.1).map Prod.snd⟩)

end Scene

end DecisionPoint
