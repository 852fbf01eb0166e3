import DecisionPoint.Http.Endpoint
import DecisionPoint.Service.Lifecycle

/-!
# Activities of the service

An activity is something that goes on beside others: the background loop, a worker, or something
that a caller waits for.  It runs alone until it ends or has to wait, and it tells when it can go
on.
-/

set_option autoImplicit false

namespace DecisionPoint

/-- Something that goes on beside others. -/
inductive Activity where
  | loop (number : Nat) (phase : LoopPhase)
  | worker (id : WorkerId) (phase : WorkerPhase)
  | starting (phase : StartPhase)
  | stopping (phase : StopPhase)
  | refreshing (giveUp : Option Nat) (wait : Option FetchWait)
  | gating (retries backoff : Nat) (gate : Option GatePhase)
  | stoppingLoop (number : Option Nat)
  | evaluating (request : Request) (evaluation : Option Evaluation)
  /-- A request whose caller may go away at a time. -/
  | authorizing (giveUp : Option Nat) (request : Request) (ticket : Option Ticket)
  | answering (listener : Listener) (request : HttpRequest) (phase : ExchangePhase)
  | pausing (time : Nat)
deriving Inhabited

inductive Answer where
  | ended
  | started (result : Except ServiceFault Unit)
  | stopped
  | refreshed (outcome : RefreshOutcome)
  | brokenOff
  | ready (value : Bool)
  | evaluated (result : FinalResult)
  | authorized (result : Except AdmissionFault FinalResult)
  | abandoned
  | responded (response : HttpResponse)
deriving Inhabited

/-- The settings of the listeners. -/
structure Surroundings where
  server : ServerOptions
  metrics : Bool
  codec : Codec
deriving Inhabited

namespace Surroundings

def default : Surroundings :=
  ⟨.default, true, .json ResponseMessage.defaultEntityId⟩

def json (service : Service) (server : ServerOptions) (metrics : Bool) : Surroundings :=
  ⟨server, metrics, .json service.options.entityId⟩

end Surroundings

abbrev Run : Type := Service × Progress Answer Activity

namespace Activity

/-- Runs a start past the points that answer at once. -/
def runStart (service : Service) (now : Nat) : Nat → StartPhase → Service.Starting
  | 0, phase => (service, .waiting phase)
  | parts + 1, phase =>
    match service.start now phase with
    | (service, .waiting phase) =>
      if service.startCanGoOn now phase then runStart service now parts phase
      else (service, .waiting phase)
    | (service, .done result) => (service, .done result)

/-- Runs a shutdown past the points that answer at once. -/
def runStop (service : Service) : Nat → StopPhase → Service.Stopping
  | 0, phase => (service, .waiting phase)
  | parts + 1, phase =>
    match service.shutdown phase with
    | (service, .waiting phase) =>
      if service.stopCanGoOn phase then runStop service parts phase
      else (service, .waiting phase)
    | (service, .done ()) => (service, .done ())

/-- More parts than a start or a shutdown has. -/
def parts (service : Service) : Nat :=
  2 * service.pipeline.points.length + 4

def afterRefresh (service : Service) (now : Nat) (giveUp : Option Nat) :
    PolicyCache × Journal × Progress RefreshOutcome FetchWait → Run
  | (cache, journal, .done outcome) =>
    (service.withCache cache journal, .done (.refreshed outcome))
  | (cache, journal, .waiting wait) =>
    if hasCome now giveUp then (service.withCache cache.release journal, .done .brokenOff)
    else (service.withCache cache journal, .waiting (.refreshing giveUp (some wait)))

def afterGate (service : Service) (retries backoff : Nat) : PolicyCache.GateRun → Run
  | (cache, journal, .done value) => (service.withCache cache journal, .done (.ready value))
  | (cache, journal, .waiting gate) =>
    (service.withCache cache journal, .waiting (.gating retries backoff (some gate)))

def afterEvaluation (request : Request) : Service × Progress FinalResult Evaluation → Run
  | (service, .done result) => (service, .done (.evaluated result))
  | (service, .waiting evaluation) => (service, .waiting (.evaluating request (some evaluation)))

/-- Waits for the result of a ticket until the caller goes away. -/
def awaitTicket (service : Service) (now : Nat) (giveUp : Option Nat) (request : Request)
    (ticket : Ticket) : Run :=
  match service.collect ticket with
  | (service, .done result) => (service, .done (.authorized (.ok result)))
  | (service, .waiting ticket) =>
    if hasCome now giveUp then (service.leave ticket, .done .abandoned)
    else (service, .waiting (.authorizing giveUp request (some ticket)))

def run (service : Service) (surroundings : Surroundings) (now : Nat) : Activity → Run
  | loop number phase =>
    let (service, progress) := service.runLoop now number phase
    (service, progress.map (fun _ => .ended) (.loop number))
  | worker id phase =>
    let (service, progress) := service.runWorker now id phase
    (service, progress.map (fun _ => .ended) (.worker id))
  | starting phase =>
    let (service, progress) := runStart service now (parts service) phase
    (service, progress.map .started .starting)
  | stopping phase =>
    let (service, progress) := runStop service (parts service) phase
    (service, progress.map (fun _ => .stopped) .stopping)
  | refreshing giveUp none =>
    afterRefresh service now giveUp (service.cache.refresh service.journal now)
  | refreshing giveUp (some wait) =>
    afterRefresh service now giveUp (service.cache.resume service.journal now wait)
  | gating retries backoff none =>
    afterGate service retries backoff (service.cache.gate service.journal now backoff retries)
  | gating retries backoff (some gate) =>
    afterGate service retries backoff (service.cache.resumeGate service.journal now backoff gate)
  | stoppingLoop none =>
    match service.dismissLoop with
    | (service, none) => (service, .done .stopped)
    | (service, some number) => (service, .waiting (.stoppingLoop (some number)))
  | stoppingLoop (some number) =>
    if service.hasEnded number then (service, .done .stopped)
    else (service, .waiting (.stoppingLoop (some number)))
  | evaluating request none => afterEvaluation request (service.evaluate now request)
  | evaluating request (some evaluation) =>
    afterEvaluation request (service.resumeEvaluation now evaluation)
  | authorizing giveUp request none =>
    match service.submit request with
    | (service, .error fault) => (service, .done (.authorized (.error fault)))
    | (service, .ok ticket) => awaitTicket service now giveUp request ticket
  | authorizing giveUp request (some ticket) => awaitTicket service now giveUp request ticket
  | answering listener request phase =>
    let (service, progress) :=
      service.answer now surroundings.codec surroundings.server surroundings.metrics listener
        request phase
    (service,
      progress.map (fun response => .responded (response.sentTo request))
        (.answering listener request))
  | pausing time =>
    if time ≤ now then (service, .done .ended) else (service, .waiting (.pausing time))

def canGoOn (service : Service) (now : Nat) : Activity → Bool
  | loop number phase => service.stopping.contains number || hasCome now phase.wake
  | worker id phase => service.workerCanGoOn now id phase
  | starting phase => service.startCanGoOn now phase
  | stopping phase => service.stopCanGoOn phase
  | refreshing giveUp wait =>
    hasCome now giveUp || wait.elim true fun wait => hasCome now wait.wake
  | gating _ _ gate => gate.elim true fun gate => hasCome now gate.wake
  | stoppingLoop number => number.elim true service.hasEnded
  | evaluating _ evaluation => evaluation.elim true fun e => hasCome now e.wait.wake
  | authorizing giveUp _ ticket =>
    hasCome now giveUp || ticket.elim true fun ticket => (service.answer? ticket).isSome
  | answering _ _ phase => service.answerCanGoOn now phase
  | pausing time => time ≤ now

/-- The time at which a waiting activity can go on in any case. -/
def wake : Activity → Option Nat
  | loop _ phase => phase.wake
  | worker _ (.evaluating _ evaluation) => evaluation.wait.wake
  | starting (.gating gate) => gate.wake
  | refreshing giveUp wait => earlier giveUp (wait.bind FetchWait.wake)
  | gating _ _ gate => gate.bind GatePhase.wake
  | evaluating _ evaluation => evaluation.bind fun e => e.wait.wake
  | authorizing giveUp _ _ => giveUp
  | answering _ _ (.reading deadline) => some deadline
  | answering _ _ (.authorizing _ deadline) => some deadline
  | answering _ _ (.reloading wait) => wait.wake
  | pausing time => some time
  | _ => none

end Activity

def Spawned.activity : Spawned → Activity
  | loop number => .loop number .fresh
  | worker shell index => .worker ⟨shell, index⟩ .fresh

end DecisionPoint
