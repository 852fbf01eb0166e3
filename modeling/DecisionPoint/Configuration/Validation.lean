import DecisionPoint.Configuration.Fault
import DecisionPoint.Configuration.Schema
import DecisionPoint.SocketAddress

/-!
# Validating a configuration

A configuration is valid when each component accepts its part.  The first field that is not is
reported.
-/

set_option autoImplicit false

namespace DecisionPoint

namespace Configuration

def addressIn (field text : String) : Except ConfigurationFault SocketAddress :=
  match SocketAddress.parse text with
  | some address => .ok address
  | none => .error (.invalidValue field ("invalid socket address: " ++ text))

def httpAddress (configuration : Configuration) : Except ConfigurationFault SocketAddress :=
  addressIn "service.http_addr" configuration.service.httpAddress

def adminAddress (configuration : Configuration) : Except ConfigurationFault SocketAddress :=
  addressIn "service.admin_addr" configuration.service.adminAddress

/-- Refuses a field unless a condition holds. -/
def insist (condition : Bool) (field reason : String) : Except ConfigurationFault Unit :=
  if condition then .ok () else .error (.invalidValue field reason)

def isWebAddress (text : String) : Bool :=
  "http://".toList.isPrefixOf text.toList || "https://".toList.isPrefixOf text.toList

def validatePolicy (settings : PolicySettings) : Except ConfigurationFault Unit := do
  insist (settings.retentionIntervalMins ≠ 0) "policy.retention_interval_mins" "must be at least 1"
  settings.administrationPoints.forM fun point =>
    insist (isWebAddress point) "policy.paps" ("not an http(s) URL: " ++ point)

def validateAdmission (settings : AdmissionSettings) : Except ConfigurationFault Unit := do
  insist (settings.maxRequests ≠ 0) "admission.max_requests" "must be at least 1"
  insist (settings.unboundedQueue || settings.maxQueueSize ≠ 0) "admission.max_request_queue_size"
    "must be at least 1; set admission.unbounded_queue for an unbounded queue"

def validateMetrics (settings : MetricsSettings) : Except ConfigurationFault Unit :=
  match settings.enabled, settings.address with
  | true, some address => (addressIn "telemetry.metrics.addr" address).map fun _ => ()
  | _, _ => .ok ()

def validate (configuration : Configuration) : Except ConfigurationFault Unit := do
  let _ ← configuration.httpAddress
  let _ ← configuration.adminAddress
  validatePolicy configuration.policy
  validateAdmission configuration.admission
  validateMetrics configuration.telemetry.metrics

end Configuration

end DecisionPoint
