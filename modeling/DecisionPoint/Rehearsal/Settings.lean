import DecisionPoint.Http.Options
import DecisionPoint.Json.Access
import DecisionPoint.Service.Basic
import DecisionPoint.Telemetry.Options

/-!
# Options in documents

The options of the components as a preset and a list of changes, each with a name and what it needs.
-/

set_option autoImplicit false

namespace DecisionPoint.Rehearsal

open Json

def unknownChange {α : Type} (name : String) : Lookup α :=
  .error ("unknown change " ++ name)

def presetOf {α : Type} (presets : List (String × α)) (name : String) : Lookup α :=
  match presets.lookup name with
  | some options => .ok options
  | none => .error ("unknown preset " ++ name)

/-- Options from a preset and changes, each given as its name and its document. -/
def optionsOf {α : Type} (presets : List (String × α)) (default : α)
    (apply : α → String → Json → Lookup α) (document : Json) : Lookup α := do
  let start ←
    match ← optional asText document "start" with
    | none => pure default
    | some name => presetOf presets name
  (← document.listAt "set").foldlM (fun options change => do
    apply options (← change.textAt "do") change) start

def millisOf (change : Json) : Lookup Span :=
  (change.natAt "arg").map .ofMillis

def cacheOptionsOf : Json → Lookup CacheOptions :=
  optionsOf [("production", .production), ("development", .development)] .default
    fun options name change => do
      match name with
      | "refresh_interval_ms" => pure { options with refreshInterval := ← millisOf change }
      | "retention_interval_mins" =>
        pure { options with refreshInterval := .ofMinutes (← change.natAt "arg") }
      | "fetch_timeout_ms" => pure { options with fetchTimeout := some (← millisOf change) }
      | "without_fetch_timeout" => pure { options with fetchTimeout := none }
      | "startup_gate" =>
        pure
          { options with
            startupRetries := .ofNat (← change.natAt "retries")
            startupBackoff := .ofMillis (← change.natAt "backoff_ms") }
      | _ => unknownChange name

def admissionOptionsOf : Json → Lookup AdmissionOptions :=
  optionsOf [] .default fun options name change => do
    match name with
    | "max_requests" => pure { options with maxRequests := .ofNat (← change.natAt "arg") }
    | "queue_capacity" =>
      pure { options with queueCapacity := some (.ofNat (← change.natAt "arg")) }
    | "unbounded_queue" => pure { options with queueCapacity := none }
    | _ => unknownChange name

def serviceOptionsOf : Json → Lookup ServiceOptions :=
  optionsOf [("production", .production), ("development", .development)] .default
    fun options name change => do
      match name with
      | "service_name" => pure { options with serviceName := ← change.textAt "arg" }
      | "entity_id" => pure { options with entityId := ← change.textAt "arg" }
      | "cache" => pure { options with cache := ← cacheOptionsOf change }
      | "admission" => pure { options with admission := ← admissionOptionsOf change }
      | "pip_timeout_ms" => pure { options with pointTimeout := some (← millisOf change) }
      | "no_pip_timeout" => pure { options with pointTimeout := none }
      | _ => unknownChange name

def serverOptionsOf : Json → Lookup ServerOptions :=
  optionsOf [] .default fun options name change => do
    match name with
    | "http_addr" => pure { options with httpAddress := ← change.textAt "arg" }
    | "admin_addr" => pure { options with adminAddress := ← change.textAt "arg" }
    | "shutdown_timeout_ms" => pure { options with shutdownTimeout := ← millisOf change }
    | "request_timeout_ms" => pure { options with requestTimeout := ← millisOf change }
    | "max_body_bytes" => pure { options with maxBodyBytes := .ofNat (← change.natAt "arg") }
    | _ => unknownChange name

def telemetryOptionsOf : Json → Lookup TelemetryOptions :=
  optionsOf [("production", .production), ("development", .development)] .production
    fun options name change => do
      match name with
      | "logging" =>
        let presets := [("production", LogOptions.production), ("development", .development)]
        pure { options with logging := ← presetOf presets (← change.textAt "arg") }
      | "level" =>
        pure { options with logging := { options.logging with level := ← change.textAt "arg" } }
      | "metrics" =>
        pure { options with metrics := ← asTyped MetricsOptions.read (← change.member "arg") }
      | "metrics_addr" => pure (options.withMetricsAddress (← change.textAt "arg"))
      | _ => unknownChange name

end DecisionPoint.Rehearsal
