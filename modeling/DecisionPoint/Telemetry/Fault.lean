/-!
# Faults of telemetry
-/

set_option autoImplicit false

namespace DecisionPoint

inductive TelemetryFault where
  | metrics (reason : String)
  | logging (reason : String)
  | configuration (reason : String)
  | address (reason : String)
deriving DecidableEq, Repr

def TelemetryFault.message : TelemetryFault → String
  | metrics reason => "Failed to initialize metrics: " ++ reason
  | logging reason => "Failed to initialize logging: " ++ reason
  | configuration reason => "Invalid configuration: " ++ reason
  | address reason => "Invalid address: " ++ reason

end DecisionPoint
