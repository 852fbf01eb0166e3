import DecisionPoint.Service.Basic

/-!
# Starting and stopping the service

A start brings up the information points in order, the background loop, and after the readiness gate
the admission shell.  One that fails takes back what it has done.  A shutdown closes admission,
waits for what was accepted, stops the background loop, and stops the information points in reverse
order.  Both wait for each information point, so other activities may run in between.
-/

set_option autoImplicit false

namespace DecisionPoint

inductive StartPhase where
  | fresh
  | startingPoint (started : List Point) (point : Point) (later : List Point)
  | gating (gate : GatePhase)
  | stoppingLoop (number : Nat) (fault : ServiceFault)
  | stoppingPoint (later : List Point) (fault : ServiceFault)
deriving Inhabited

inductive StopPhase where
  | fresh
  | draining (shell : Nat)
  | stoppingLoop (number : Nat)
  | stoppingPoint (later : List Point)
deriving Inhabited

namespace Service

abbrev Starting : Type := Service × Progress (Except ServiceFault Unit) StartPhase

abbrev Stopping : Type := Service × Progress Unit StopPhase

/-! ## The background loop -/

def startRefresh (service : Service) : Except ServiceFault Service :=
  let (number, service) := service.freshNumber
  match service.cache.startRefresh number with
  | .error fault => .error fault
  | .ok cache =>
    .ok { service with cache := cache, spawned := service.spawned ++ [.loop number] }

def dismissLoop (service : Service) : Service × Option Nat :=
  let (cache, loop) := service.cache.dismissLoop
  ({ service with cache := cache, stopping := service.stopping ++ loop.toList }, loop)

def hasEnded (service : Service) (number : Nat) : Bool :=
  service.ended.contains number

def runLoop (service : Service) (now number : Nat) (phase : LoopPhase) :
    Service × Progress Unit LoopPhase :=
  match service.cache.runLoop service.journal now (service.stopping.contains number) phase with
  | (cache, journal, .waiting phase) => (service.withCache cache journal, .waiting phase)
  | (cache, journal, .done ()) =>
    ({ service.withCache cache journal with ended := service.ended ++ [number] }, .done ())

/-! ## Starting -/

/-- Takes back the start of points, given last first, and fails. -/
def rollBack (service : Service) (fault : ServiceFault) : List Point → Starting
  | [] => (service, .done (.error fault))
  | point :: later => (service.called [.stop point], .waiting (.stoppingPoint later fault))

def openAdmission (service : Service) : Starting :=
  match Shell.start service.options.admission with
  | .ok shell =>
    let (number, service) := service.freshNumber
    let workers := (List.range shell.alive).map fun worker => Spawned.worker number worker
    ({ service with
        shells := service.shells ++ [(number, shell)]
        admission := some number
        spawned := service.spawned ++ workers },
      .done (.ok ()))
  | .error fault =>
    match service.dismissLoop with
    | (service, some number) => (service, .waiting (.stoppingLoop number fault))
    | (service, none) => service.rollBack fault service.pipeline.points.reverse

def afterGate (service : Service) : PolicyCache.GateRun → Starting
  | (cache, journal, .waiting gate) => (service.withCache cache journal, .waiting (.gating gate))
  | (cache, journal, .done _) => (service.withCache cache journal).openAdmission

def backoff (service : Service) : Nat :=
  service.cache.options.startupBackoff.millis

def startPoints (service : Service) (now : Nat) (started : List Point) : List Point → Starting
  | point :: later =>
    (service.called [.start point], .waiting (.startingPoint started point later))
  | [] =>
    match service.startRefresh with
    | .error fault => service.rollBack fault service.pipeline.points.reverse
    | .ok service =>
      service.afterGate
        (service.cache.gate service.journal now service.backoff
          service.cache.options.startupRetries.toNat)

def start (service : Service) (now : Nat) : StartPhase → Starting
  | .fresh =>
    if service.isRunning then
      (service, .done (.error (.alreadyRunning "policy decision point")))
    else service.startPoints now [] service.pipeline.points
  | .startingPoint started point later =>
    match point.start with
    | .ok () => service.startPoints now (started ++ [point]) later
    | .error fault => service.rollBack (.information fault) started.reverse
  | .gating gate =>
    service.afterGate (service.cache.resumeGate service.journal now service.backoff gate)
  | .stoppingLoop number fault =>
    if service.hasEnded number then service.rollBack fault service.pipeline.points.reverse
    else (service, .waiting (.stoppingLoop number fault))
  | .stoppingPoint later fault => service.rollBack fault later

def startCanGoOn (service : Service) (now : Nat) : StartPhase → Bool
  | .fresh | .startingPoint _ _ _ | .stoppingPoint _ _ => true
  | .gating gate => hasCome now gate.wake
  | .stoppingLoop number _ => service.hasEnded number

/-! ## Stopping -/

/-- Stops points, given last first.  Whether a stop succeeds does not matter. -/
def stopPoints (service : Service) : List Point → Stopping
  | [] => (service, .done ())
  | point :: later => (service.called [.stop point], .waiting (.stoppingPoint later))

def stopRefresh (service : Service) : Stopping :=
  match service.dismissLoop with
  | (service, some number) => (service, .waiting (.stoppingLoop number))
  | (service, none) => service.stopPoints service.pipeline.points.reverse

def hasDrained (service : Service) (number : Nat) : Bool :=
  ((service.shell? number).map fun shell => shell.alive == 0).getD true

def shutdown (service : Service) : StopPhase → Stopping
  | .fresh =>
    match service.admission with
    | none => service.stopRefresh
    | some number =>
      match service.shell? number with
      | none => { service with admission := none }.stopRefresh
      | some shell =>
        ({ service with admission := none }.withShell number shell.close,
          .waiting (.draining number))
  | .draining number =>
    if service.hasDrained number then service.stopRefresh
    else (service, .waiting (.draining number))
  | .stoppingLoop number =>
    if service.hasEnded number then service.stopPoints service.pipeline.points.reverse
    else (service, .waiting (.stoppingLoop number))
  | .stoppingPoint later => service.stopPoints later

def stopCanGoOn (service : Service) : StopPhase → Bool
  | .fresh | .stoppingPoint _ => true
  | .draining number => service.hasDrained number
  | .stoppingLoop number => service.hasEnded number

end Service

end DecisionPoint
