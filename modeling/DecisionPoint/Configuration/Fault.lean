import DecisionPoint.Fault
import DecisionPoint.Json.Reader

/-!
# Faults of the configuration
-/

set_option autoImplicit false

namespace DecisionPoint

inductive ConfigurationFault where
  | fileNotFound (path : String)
  | unreadableFile (path : String)
  | notToml (cause : Json.DecodeError)
  | notJson (cause : Json.DecodeError)
  | invalidValue (field reason : String)
  | missingField (field : String)
  | invalidVariable (name reason : String)
  | invalid (reason : String)
  | refused (reason : String)
deriving DecidableEq, Repr

namespace ConfigurationFault

/-- The complaint about a text; nothing is said about one that is no document. -/
def complaint : Json.DecodeError → String
  | .malformed => ""
  | .mismatch reason => reason.message

def message : ConfigurationFault → String
  | fileNotFound path => "configuration file not found: " ++ path
  | unreadableFile path => "failed to read configuration file: " ++ path
  | notToml cause => "failed to parse TOML configuration: " ++ complaint cause
  | notJson cause => "failed to parse JSON configuration: " ++ complaint cause
  | invalidValue field reason => "invalid configuration value for " ++ field ++ ": " ++ reason
  | missingField field => "missing required configuration field: " ++ field
  | invalidVariable name reason =>
    "failed to parse environment variable " ++ name ++ ": " ++ reason
  | invalid reason => "configuration validation failed: " ++ reason
  | refused reason => "invalid configuration: " ++ reason

def ofService (fault : ServiceFault) : ConfigurationFault :=
  .refused fault.message

end ConfigurationFault

end DecisionPoint
