import DecisionPoint.Configuration.Environment
import DecisionPoint.Configuration.Fault
import DecisionPoint.Configuration.Schema
import DecisionPoint.Text.Blank
import DecisionPoint.Text.Casing

/-!
# Overriding a configuration by variables

A variable overrides a field when its name is the chosen first part and the names of the section and
the field, in capitals and with two underscores between them.  All other variables are let be.
-/

set_option autoImplicit false

namespace DecisionPoint

/-- How a value is put into a configuration; a value that does not fit is refused with what was
expected. -/
abbrev Setter : Type := String → Configuration → Except String Configuration

namespace Setter

def text (set : Configuration → String → Configuration) : Setter := fun value configuration =>
  .ok (set configuration value)

def natural? (digits : List Char) : Option Nat :=
  if digits.isEmpty || !digits.all Char.isDigit then none
  else some (digits.foldl (fun n c => 10 * n + (c.toNat - 48)) 0)

/-- Takes a number below `2 ^ bits`, with blanks around it and a plus sign before it allowed. -/
def number (bits : Nat) (set : Configuration → Nat → Configuration) : Setter :=
  fun value configuration =>
    let digits :=
      match Text.trim value.toList with
      | '+' :: rest => rest
      | cs => cs
    match natural? digits with
    | some n => if n < Nat.pow 2 bits then .ok (set configuration n) else .error "expected integer"
    | none => .error "expected integer"

def flagWords : List (String × Bool) :=
  [("true", true), ("1", true), ("yes", true), ("on", true), ("false", false), ("0", false),
    ("no", false), ("off", false)]

def flag (set : Configuration → Bool → Configuration) : Setter := fun value configuration =>
  match flagWords.lookup (Text.lowercase value) with
  | some b => .ok (set configuration b)
  | none => .error "expected boolean"

def format (set : Configuration → LogFormat → Configuration) : Setter := fun value configuration =>
  match LogFormat.choices.lookup (Text.lowercase value) with
  | some form => .ok (set configuration form)
  | none => .error "expected 'json' or 'pretty'"

/-- Takes the parts between commas, without the blanks around them and without empty ones. -/
def list (set : Configuration → List String → Configuration) : Setter :=
  fun value configuration =>
    let parts := (value.toList.splitOn ',').map Text.trim
    .ok (set configuration ((parts.filter fun part => !part.isEmpty).map String.ofList))

end Setter

namespace Configuration

def withService (c : Configuration) (s : ServiceSettings) : Configuration := { c with service := s }

def withPolicy (c : Configuration) (p : PolicySettings) : Configuration := { c with policy := p }

def withAdmission (c : Configuration) (a : AdmissionSettings) : Configuration :=
  { c with admission := a }

def withLogging (c : Configuration) (l : LoggingSettings) : Configuration :=
  { c with telemetry := { c.telemetry with logging := l } }

def withMetrics (c : Configuration) (m : MetricsSettings) : Configuration :=
  { c with telemetry := { c.telemetry with metrics := m } }

def setters : List (List String × Setter) :=
  [(["SERVICE", "SERVICE_NAME"],
      .text fun c v => c.withService { c.service with serviceName := v }),
    (["SERVICE", "ENTITY_ID"], .text fun c v => c.withService { c.service with entityId := v }),
    (["SERVICE", "HTTP_ADDR"], .text fun c v => c.withService { c.service with httpAddress := v }),
    (["SERVICE", "ADMIN_ADDR"],
      .text fun c v => c.withService { c.service with adminAddress := v }),
    (["SERVICE", "SHUTDOWN_TIMEOUT_SECS"],
      .number 64 fun c v => c.withService { c.service with shutdownTimeoutSecs := .ofNat v }),
    (["SERVICE", "REQUEST_TIMEOUT_MS"],
      .number 64 fun c v => c.withService { c.service with requestTimeoutMillis := .ofNat v }),
    (["SERVICE", "PIP_TIMEOUT_MS"],
      .number 64 fun c v => c.withService { c.service with pointTimeoutMillis := .ofNat v }),
    (["POLICY", "POLICY_SET_ID"],
      .text fun c v => c.withPolicy { c.policy with policySetId := v }),
    (["POLICY", "PAPS"],
      .list fun c v => c.withPolicy { c.policy with administrationPoints := v }),
    (["POLICY", "RETENTION_INTERVAL_MINS"],
      .number 64 fun c v => c.withPolicy { c.policy with retentionIntervalMins := .ofNat v }),
    (["POLICY", "FETCH_TIMEOUT_MS"],
      .number 64 fun c v => c.withPolicy { c.policy with fetchTimeoutMillis := .ofNat v }),
    (["POLICY", "STARTUP_RETRIES"],
      .number 32 fun c v => c.withPolicy { c.policy with startupRetries := .ofNat v }),
    (["POLICY", "STARTUP_BACKOFF_MS"],
      .number 64 fun c v => c.withPolicy { c.policy with startupBackoffMillis := .ofNat v }),
    (["ADMISSION", "MAX_REQUESTS"],
      .number 64 fun c v => c.withAdmission { c.admission with maxRequests := .ofNat v }),
    (["ADMISSION", "MAX_REQUEST_QUEUE_SIZE"],
      .number 64 fun c v => c.withAdmission { c.admission with maxQueueSize := .ofNat v }),
    (["ADMISSION", "UNBOUNDED_QUEUE"],
      .flag fun c v => c.withAdmission { c.admission with unboundedQueue := v }),
    (["TELEMETRY", "LOGGING", "ENABLED"],
      .flag fun c v => c.withLogging { c.telemetry.logging with enabled := v }),
    (["TELEMETRY", "LOGGING", "LEVEL"],
      .text fun c v => c.withLogging { c.telemetry.logging with level := v }),
    (["TELEMETRY", "LOGGING", "FORMAT"],
      .format fun c v => c.withLogging { c.telemetry.logging with format := v }),
    (["TELEMETRY", "LOGGING", "INCLUDE_LOCATION"],
      .flag fun c v => c.withLogging { c.telemetry.logging with includeLocation := v }),
    (["TELEMETRY", "METRICS", "ENABLED"],
      .flag fun c v => c.withMetrics { c.telemetry.metrics with enabled := v }),
    (["TELEMETRY", "METRICS", "ADDR"],
      .text fun c v =>
        c.withMetrics { c.telemetry.metrics with address := if v.isEmpty then none else some v })]

/-- The parts of a name between pairs of underscores, read from the left. -/
def splitPairs : List Char → List (List Char)
  | '_' :: '_' :: rest => [] :: splitPairs rest
  | c :: rest =>
    match splitPairs rest with
    | [] => [[c]]
    | part :: parts => (c :: part) :: parts
  | [] => [[]]

def afterStart (start : List Char) (cs : List Char) : Option (List Char) :=
  if start.isPrefixOf cs then some (cs.drop start.length) else none

/-- The setter of a variable, if it overrides anything under a first part of names. -/
def setterOf (first name : String) : Option Setter :=
  match afterStart (first.toList ++ ['_', '_']) name.toList with
  | none => none
  | some rest => setters.lookup ((splitPairs rest).map String.ofList)

def overrideBy (first : String) (configuration : Configuration) (item : Variable) :
    Except ConfigurationFault Configuration :=
  match setterOf first item.name with
  | none => .ok configuration
  | some setter => (setter item.value configuration).mapError (.invalidVariable item.name)

/-- Lets variables override their fields, in the order given. -/
def overrideAll (first : String) (configuration : Configuration) (items : List Variable) :
    Except ConfigurationFault Configuration :=
  items.foldlM (overrideBy first) configuration

end Configuration

end DecisionPoint
