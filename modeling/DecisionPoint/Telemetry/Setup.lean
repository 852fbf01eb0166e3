import DecisionPoint.Audit
import DecisionPoint.SocketAddress
import DecisionPoint.Telemetry.Fault
import DecisionPoint.Telemetry.Filter
import DecisionPoint.Telemetry.Metrics
import DecisionPoint.Telemetry.Options

/-!
# Setting telemetry up

Logging and metrics are each set up at most once in a process.  What cannot be set up leaves the
rest as it is.  Once they are there, audit records become log lines and observations are counted.
-/

set_option autoImplicit false

namespace DecisionPoint

def auditTarget : String := "arbiter::audit"

structure Logging where
  options : LogOptions
  filter : LogFilter
deriving Inhabited

structure LogLine where
  severity : Severity
  target : Option String
  message : String
  hasLocation : Bool
deriving DecidableEq, Repr, Inhabited

structure Telemetry where
  logging : Option Logging
  metrics : Option Metrics
  log : List LogLine
deriving Inhabited

/-- Something that telemetry can be told. -/
inductive Observation where
  | decision (decision : String)
  | error (kind : String)
  | rejection
  | refresh (succeeded : Bool)
  | obligation (obligationId : String)
  | audit (record : AuditRecord)
deriving Inhabited

namespace Telemetry

def none : Telemetry := ⟨.none, .none, []⟩

def filterOf (directives : String) : Except TelemetryFault LogFilter :=
  match LogFilter.parse directives with
  | some filter => .ok filter
  | .none => .error (.logging "Invalid log level: invalid filter directive")

def installLogging (telemetry : Telemetry) (options : LogOptions) :
    Except TelemetryFault Telemetry :=
  if options.enabled then do
    let filter ← filterOf options.level
    if telemetry.logging.isSome then
      .error (.logging "a global default trace dispatcher has already been set")
    else .ok { telemetry with logging := some ⟨options, filter⟩ }
  else .ok telemetry

def checkAddress : Option String → Except TelemetryFault Unit
  | .none => .ok ()
  | some text =>
    if (SocketAddress.parse text).isSome then .ok ()
    else .error (.address (text ++ ": " ++ SocketAddress.complaint))

def installMetrics (telemetry : Telemetry) (options : MetricsOptions) :
    Except TelemetryFault Telemetry :=
  if options.enabled then do
    checkAddress options.address
    if telemetry.metrics.isSome then
      .error
        (.metrics "attempted to set a recorder after the metrics system was already initialized")
    else .ok { telemetry with metrics := some .empty }
  else .ok telemetry

def install (telemetry : Telemetry) (options : TelemetryOptions) :
    Telemetry × Except TelemetryFault Unit :=
  match telemetry.installLogging options.logging with
  | .error fault => (telemetry, .error fault)
  | .ok telemetry =>
    match telemetry.installMetrics options.metrics with
    | .error fault => (telemetry, .error fault)
    | .ok telemetry => (telemetry, .ok ())

def count (telemetry : Telemetry) (change : Metrics → Metrics) : Telemetry :=
  { telemetry with metrics := telemetry.metrics.map change }

def Logging.auditLines (logging : Logging) (record : AuditRecord) : List LogLine :=
  if logging.filter.admits auditTarget ["message"] .info then
    [⟨.info, if logging.options.includeTarget then some auditTarget else .none, record.line,
      logging.options.fileLineInfo⟩]
  else []

def observe (telemetry : Telemetry) : Observation → Telemetry
  | .decision decision => telemetry.count (·.recordDecision decision)
  | .error kind => telemetry.count (·.recordError kind)
  | .rejection => telemetry.count Metrics.recordRejection
  | .refresh succeeded => telemetry.count (·.recordRefresh succeeded)
  | .obligation obligationId => telemetry.count (·.recordObligation obligationId)
  | .audit record =>
    let lines := (telemetry.logging.map (Logging.auditLines · record)).getD []
    { telemetry with log := telemetry.log ++ lines }

end Telemetry

end DecisionPoint
