import DecisionPoint.Json.Reader

/-!
# Telemetry options

How log lines look and which are written, and whether metrics are kept and served.
-/

set_option autoImplicit false

namespace DecisionPoint

structure LogOptions where
  enabled : Bool
  level : String
  jsonFormat : Bool
  spanEvents : Bool
  fileLineInfo : Bool
  includeTarget : Bool
deriving DecidableEq, Repr, Inhabited

namespace LogOptions

def development : LogOptions :=
  ⟨true, "debug", false, true, true, true⟩

def production : LogOptions :=
  ⟨true, "info", true, false, false, true⟩

def toJson (options : LogOptions) : Json :=
  .object
    [("enabled", .bool options.enabled), ("level", .string options.level),
      ("json_format", .bool options.jsonFormat), ("span_events", .bool options.spanEvents),
      ("file_line_info", .bool options.fileLineInfo),
      ("include_target", .bool options.includeTarget)]

structure Draft where
  enabled : Option Bool
  level : Option String
  jsonFormat : Option Bool
  spanEvents : Option Bool
  fileLineInfo : Option Bool
  includeTarget : Option Bool

open Json in
def record : Record Draft LogOptions where
  title := "struct LogConfig"
  blank := ⟨none, none, none, none, none, none⟩
  fields :=
    [field "enabled" false (readBool .json) fun d v => { d with enabled := some v },
      field "level" false (readString .json) fun d v => { d with level := some v },
      field "json_format" false (readBool .json) fun d v => { d with jsonFormat := some v },
      field "span_events" false (readBool .json) fun d v => { d with spanEvents := some v },
      field "file_line_info" false (readBool .json) fun d v => { d with fileLineInfo := some v },
      field "include_target" false (readBool .json) fun d v => { d with includeTarget := some v }]
  strict := false
  finish d := do
    let enabled ← required "enabled" d.enabled
    let level ← required "level" d.level
    let jsonFormat ← required "json_format" d.jsonFormat
    let spanEvents ← required "span_events" d.spanEvents
    let fileLineInfo ← required "file_line_info" d.fileLineInfo
    let includeTarget ← required "include_target" d.includeTarget
    pure ⟨enabled, level, jsonFormat, spanEvents, fileLineInfo, includeTarget⟩

def read : Json.Reader LogOptions :=
  record.read .json

end LogOptions

structure MetricsOptions where
  enabled : Bool
  address : Option String
deriving DecidableEq, Repr, Inhabited

namespace MetricsOptions

def default : MetricsOptions :=
  ⟨true, none⟩

def toJson (options : MetricsOptions) : Json :=
  .object
    [("enabled", .bool options.enabled), ("addr", Json.option .string options.address)]

structure Draft where
  enabled : Option Bool
  address : Option (Option String)

open Json in
def record : Record Draft MetricsOptions where
  title := "struct MetricsConfig"
  blank := ⟨none, none⟩
  fields :=
    [field "enabled" false (readBool .json) fun d v => { d with enabled := some v },
      field "addr" false (readOption (readString .json)) fun d v => { d with address := some v }]
  strict := false
  finish d := do
    let enabled ← required "enabled" d.enabled
    pure ⟨enabled, d.address.join⟩

def read : Json.Reader MetricsOptions :=
  record.read .json

end MetricsOptions

structure TelemetryOptions where
  logging : LogOptions
  metrics : MetricsOptions
deriving DecidableEq, Repr, Inhabited

namespace TelemetryOptions

def development : TelemetryOptions :=
  ⟨.development, .default⟩

def production : TelemetryOptions :=
  ⟨.production, .default⟩

def withMetricsAddress (options : TelemetryOptions) (address : String) : TelemetryOptions :=
  { options with metrics := ⟨true, some address⟩ }

def toJson (options : TelemetryOptions) : Json :=
  .object [("logging", options.logging.toJson), ("metrics", options.metrics.toJson)]

structure Draft where
  logging : Option LogOptions
  metrics : Option MetricsOptions

open Json in
def record : Record Draft TelemetryOptions where
  title := "struct TelemetryConfig"
  blank := ⟨none, none⟩
  fields :=
    [field "logging" false LogOptions.read fun d v => { d with logging := some v },
      field "metrics" false MetricsOptions.read fun d v => { d with metrics := some v }]
  strict := false
  finish d := do
    let logging ← required "logging" d.logging
    let metrics ← required "metrics" d.metrics
    pure ⟨logging, metrics⟩

def read : Json.Reader TelemetryOptions :=
  record.read .json

end TelemetryOptions

end DecisionPoint
