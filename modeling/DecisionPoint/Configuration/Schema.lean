import DecisionPoint.Toml.Choice

/-!
# The configuration

A configuration has sections, and each section has a default for each field, so any part of a
document may be left out.  A member that is no field is refused: a misspelt name is never silently
replaced by a default.  Reading starts from the defaults and puts each field in its place.
-/

set_option autoImplicit false

namespace DecisionPoint

/-- Identity, listeners and time limits. -/
structure ServiceSettings where
  serviceName : String
  entityId : String
  httpAddress : String
  adminAddress : String
  shutdownTimeoutSecs : UInt64
  requestTimeoutMillis : UInt64
  /-- The limit on one call of an information point; zero for none. -/
  pointTimeoutMillis : UInt64
deriving DecidableEq, Repr, Inhabited

namespace ServiceSettings

def default : ServiceSettings :=
  ⟨"arbiter", "arbiter", "0.0.0.0:8152", "127.0.0.1:8153", 30, 30000, 5000⟩

def toJson (settings : ServiceSettings) : Json :=
  .object
    [("service_name", .string settings.serviceName), ("entity_id", .string settings.entityId),
      ("http_addr", .string settings.httpAddress), ("admin_addr", .string settings.adminAddress),
      ("shutdown_timeout_secs", Json.nat settings.shutdownTimeoutSecs.toNat),
      ("request_timeout_ms", Json.nat settings.requestTimeoutMillis.toNat),
      ("pip_timeout_ms", Json.nat settings.pointTimeoutMillis.toNat)]

open Json in
def record (dialect : Dialect) : Record ServiceSettings ServiceSettings where
  title := "struct ServiceConfig"
  blank := default
  fields :=
    [field "service_name" true (readString dialect) fun d v => { d with serviceName := v },
      field "entity_id" true (readString dialect) fun d v => { d with entityId := v },
      field "http_addr" true (readString dialect) fun d v => { d with httpAddress := v },
      field "admin_addr" true (readString dialect) fun d v => { d with adminAddress := v },
      field "shutdown_timeout_secs" true (readWord dialect "u64") fun d v =>
        { d with shutdownTimeoutSecs := v },
      field "request_timeout_ms" true (readWord dialect "u64") fun d v =>
        { d with requestTimeoutMillis := v },
      field "pip_timeout_ms" true (readWord dialect "u64") fun d v =>
        { d with pointTimeoutMillis := v }]
  strict := true
  finish := .ok

end ServiceSettings

/-- Where policies come from and how often they are loaded. -/
structure PolicySettings where
  policySetId : String
  administrationPoints : List String
  retentionIntervalMins : UInt64
  /-- The limit on one fetch; zero for none. -/
  fetchTimeoutMillis : UInt64
  startupRetries : UInt32
  startupBackoffMillis : UInt64
deriving DecidableEq, Repr, Inhabited

namespace PolicySettings

def default : PolicySettings :=
  ⟨"", [], 240, 30000, 5, 500⟩

def toJson (settings : PolicySettings) : Json :=
  .object
    [("policy_set_id", .string settings.policySetId),
      ("paps", Json.strings settings.administrationPoints),
      ("retention_interval_mins", Json.nat settings.retentionIntervalMins.toNat),
      ("fetch_timeout_ms", Json.nat settings.fetchTimeoutMillis.toNat),
      ("startup_retries", Json.nat settings.startupRetries.toNat),
      ("startup_backoff_ms", Json.nat settings.startupBackoffMillis.toNat)]

open Json in
def record (dialect : Dialect) : Record PolicySettings PolicySettings where
  title := "struct PolicyConfig"
  blank := default
  fields :=
    [field "policy_set_id" true (readString dialect) fun d v => { d with policySetId := v },
      field "paps" true (readList dialect (readString dialect)) fun d v =>
        { d with administrationPoints := v },
      field "retention_interval_mins" true (readWord dialect "u64") fun d v =>
        { d with retentionIntervalMins := v },
      field "fetch_timeout_ms" true (readWord dialect "u64") fun d v =>
        { d with fetchTimeoutMillis := v },
      field "startup_retries" true (readUnsigned dialect 32 "u32") fun d v =>
        { d with startupRetries := .ofNat v },
      field "startup_backoff_ms" true (readWord dialect "u64") fun d v =>
        { d with startupBackoffMillis := v }]
  strict := true
  finish := .ok

end PolicySettings

/-- How many requests are evaluated at once and how many may wait. -/
structure AdmissionSettings where
  maxRequests : UInt64
  maxQueueSize : UInt64
  unboundedQueue : Bool
deriving DecidableEq, Repr, Inhabited

namespace AdmissionSettings

def default : AdmissionSettings :=
  ⟨200, 500, false⟩

def toJson (settings : AdmissionSettings) : Json :=
  .object
    [("max_requests", Json.nat settings.maxRequests.toNat),
      ("max_request_queue_size", Json.nat settings.maxQueueSize.toNat),
      ("unbounded_queue", .bool settings.unboundedQueue)]

open Json in
def record (dialect : Dialect) : Record AdmissionSettings AdmissionSettings where
  title := "struct AdmissionSection"
  blank := default
  fields :=
    [field "max_requests" true (readWord dialect "usize") fun d v => { d with maxRequests := v },
      field "max_request_queue_size" true (readWord dialect "usize") fun d v =>
        { d with maxQueueSize := v },
      field "unbounded_queue" true (readBool dialect) fun d v => { d with unboundedQueue := v }]
  strict := true
  finish := .ok

end AdmissionSettings

inductive LogFormat where
  | json
  | pretty
deriving DecidableEq, Repr, Inhabited

namespace LogFormat

def name : LogFormat → String
  | json => "json"
  | pretty => "pretty"

def choices : List (String × LogFormat) :=
  [json, pretty].map fun format => (format.name, format)

def read : Json.Dialect → Json.Reader LogFormat
  | .json => Json.readChoice .json choices
  | .toml => Toml.readChoice choices

end LogFormat

/-- Which log lines are written, and how. -/
structure LoggingSettings where
  enabled : Bool
  level : String
  format : LogFormat
  includeLocation : Bool
deriving DecidableEq, Repr, Inhabited

namespace LoggingSettings

def default : LoggingSettings :=
  ⟨true, "info", .json, false⟩

def toJson (settings : LoggingSettings) : Json :=
  .object
    [("enabled", .bool settings.enabled), ("level", .string settings.level),
      ("format", .string settings.format.name),
      ("include_location", .bool settings.includeLocation)]

open Json in
def record (dialect : Dialect) : Record LoggingSettings LoggingSettings where
  title := "struct LoggingConfig"
  blank := default
  fields :=
    [field "enabled" true (readBool dialect) fun d v => { d with enabled := v },
      field "level" true (readString dialect) fun d v => { d with level := v },
      field "format" true (LogFormat.read dialect) fun d v => { d with format := v },
      field "include_location" true (readBool dialect) fun d v => { d with includeLocation := v }]
  strict := true
  finish := .ok

end LoggingSettings

structure MetricsSettings where
  enabled : Bool
  address : Option String
deriving DecidableEq, Repr, Inhabited

namespace MetricsSettings

def default : MetricsSettings :=
  ⟨true, none⟩

def toJson (settings : MetricsSettings) : Json :=
  .object
    [("enabled", .bool settings.enabled), ("addr", Json.option .string settings.address)]

open Json in
def record (dialect : Dialect) : Record MetricsSettings MetricsSettings where
  title := "struct MetricsSection"
  blank := default
  fields :=
    [field "enabled" true (readBool dialect) fun d v => { d with enabled := v },
      field "addr" true (readOption (readString dialect)) fun d v => { d with address := v }]
  strict := true
  finish := .ok

end MetricsSettings

structure TelemetrySettings where
  logging : LoggingSettings
  metrics : MetricsSettings
deriving DecidableEq, Repr, Inhabited

namespace TelemetrySettings

def default : TelemetrySettings :=
  ⟨.default, .default⟩

def toJson (settings : TelemetrySettings) : Json :=
  .object [("logging", settings.logging.toJson), ("metrics", settings.metrics.toJson)]

open Json in
def record (dialect : Dialect) : Record TelemetrySettings TelemetrySettings where
  title := "struct TelemetrySection"
  blank := default
  fields :=
    [field "logging" true ((LoggingSettings.record dialect).read dialect) fun d v =>
        { d with logging := v },
      field "metrics" true ((MetricsSettings.record dialect).read dialect) fun d v =>
        { d with metrics := v }]
  strict := true
  finish := .ok

end TelemetrySettings

structure Configuration where
  service : ServiceSettings
  policy : PolicySettings
  admission : AdmissionSettings
  telemetry : TelemetrySettings
deriving DecidableEq, Repr, Inhabited

namespace Configuration

def default : Configuration :=
  ⟨.default, .default, .default, .default⟩

/-- Readable logs with all detail, frequent loads and few workers. -/
def development : Configuration :=
  { default with
    service := { ServiceSettings.default with httpAddress := "127.0.0.1:8152" }
    policy := { PolicySettings.default with retentionIntervalMins := 1 }
    admission := { AdmissionSettings.default with maxRequests := 8, maxQueueSize := 32 }
    telemetry :=
      { TelemetrySettings.default with
        logging :=
          { LoggingSettings.default with
            level := "debug"
            format := .pretty
            includeLocation := true } } }

/-- Terse logs for machines, and the default sizes. -/
def production : Configuration :=
  { default with
    telemetry :=
      { TelemetrySettings.default with
        logging := { LoggingSettings.default with level := "info", format := .json } } }

def toJson (configuration : Configuration) : Json :=
  .object
    [("service", configuration.service.toJson), ("policy", configuration.policy.toJson),
      ("admission", configuration.admission.toJson),
      ("telemetry", configuration.telemetry.toJson)]

open Json in
def record (dialect : Dialect) : Record Configuration Configuration where
  title := "struct ArbiterConfig"
  blank := default
  fields :=
    [field "service" true ((ServiceSettings.record dialect).read dialect) fun d v =>
        { d with service := v },
      field "policy" true ((PolicySettings.record dialect).read dialect) fun d v =>
        { d with policy := v },
      field "admission" true ((AdmissionSettings.record dialect).read dialect) fun d v =>
        { d with admission := v },
      field "telemetry" true ((TelemetrySettings.record dialect).read dialect) fun d v =>
        { d with telemetry := v }]
  strict := true
  finish := .ok

def read (dialect : Json.Dialect) : Json.Reader Configuration :=
  (record dialect).read dialect

end Configuration

end DecisionPoint
