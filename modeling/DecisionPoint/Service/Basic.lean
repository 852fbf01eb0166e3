import DecisionPoint.Admission.Shell
import DecisionPoint.Evaluation.Pipeline
import DecisionPoint.Policy.Gate
import DecisionPoint.Policy.RefreshLoop

/-!
# The decision service

The service is the policy cache, the pipeline, the registry of handlers and the admission shell,
with what it records.  The activities that run beside each other, such as workers and the background
loop, share this state.
-/

set_option autoImplicit false

namespace DecisionPoint

structure ServiceOptions where
  serviceName : String
  entityId : String
  cache : CacheOptions
  admission : AdmissionOptions
  pointTimeout : Option Span
deriving DecidableEq, Repr, Inhabited

namespace ServiceOptions

def default : ServiceOptions :=
  ⟨"arbiter", "arbiter", .default, .default, some (.ofSecs 5)⟩

def production : ServiceOptions :=
  { default with cache := .production }

def development : ServiceOptions :=
  { default with cache := .development, admission := ⟨8, some 32⟩ }

end ServiceOptions

def serviceVersion : String := "0.1.0"

/-- Something that the service sets going beside its caller. -/
inductive Spawned where
  | loop (number : Nat)
  | worker (shell worker : Nat)
deriving DecidableEq, Repr

/-- The state of the service. -/
structure Service where
  options : ServiceOptions
  cache : PolicyCache
  journal : Journal
  pipeline : Pipeline
  registry : HandlerRegistry
  shells : List (Nat × Shell)
  /-- The shell that takes requests. -/
  admission : Option Nat
  /-- The background loops that were told to stop. -/
  stopping : List Nat
  ended : List Nat
  calls : List Call
  spawned : List Spawned
  nextNumber : Nat
deriving Inhabited

namespace Service

def new (options : ServiceOptions) (source : ScriptedSource) (engine : Engine)
    (points : List Point) (registry : HandlerRegistry) (startedAt : Instant) : Service where
  options := options
  cache := .new source options.cache true
  journal := .start (.new options.serviceName serviceVersion startedAt)
  pipeline := ⟨engine, points, options.pointTimeout⟩
  registry := registry
  shells := []
  admission := none
  stopping := []
  ended := []
  calls := []
  spawned := []
  nextNumber := 0

/-- Builds a service; a source and an engine have to be there, and without a registry it has no
handlers. -/
def build (options : ServiceOptions) (source? : Option ScriptedSource) (engine? : Option Engine)
    (points : List Point) (known? : Option HandlerRegistry) (startedAt : Instant) :
    Except ServiceFault Service :=
  match source?, engine? with
  | none, _ => .error (.config "a policy source is required")
  | _, none => .error (.config "an evaluation engine is required")
  | some source, some engine =>
    .ok (.new options source engine points (known?.getD .empty) startedAt)

def isRunning (service : Service) : Bool :=
  service.admission.isSome

def isRefreshRunning (service : Service) : Bool :=
  service.cache.loop.isSome

def shell? (service : Service) (number : Nat) : Option Shell :=
  service.shells.lookup number

def withShell (service : Service) (number : Nat) (shell : Shell) : Service :=
  { service with
    shells := service.shells.map fun item => if item.1 = number then (number, shell) else item }

def called (service : Service) (calls : List Call) : Service :=
  { service with calls := service.calls ++ calls }

def withCache (service : Service) (cache : PolicyCache) (journal : Journal) : Service :=
  { service with cache := cache, journal := journal }

def freshNumber (service : Service) : Nat × Service :=
  (service.nextNumber, { service with nextNumber := service.nextNumber + 1 })

def report (service : Service) : StatusReport :=
  service.journal.status.report

end Service

end DecisionPoint
