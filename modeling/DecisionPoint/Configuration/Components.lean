import DecisionPoint.Configuration.Fault
import DecisionPoint.Configuration.Schema
import DecisionPoint.Http.Options
import DecisionPoint.Policy.Administration
import DecisionPoint.Service.Basic
import DecisionPoint.Telemetry.Options

/-!
# Options of the components

What a configuration means for each component.  A time limit of zero is none.
-/

set_option autoImplicit false

namespace DecisionPoint

namespace Configuration

/-- A limit in milliseconds; none for zero. -/
def limit? (millis : UInt64) : Option Span :=
  if millis = 0 then none else some (.ofMillis millis.toNat)

def cacheOptions (configuration : Configuration) : CacheOptions :=
  let policy := configuration.policy
  ⟨.ofMinutes policy.retentionIntervalMins.toNat, limit? policy.fetchTimeoutMillis,
    policy.startupRetries, .ofMillis policy.startupBackoffMillis.toNat⟩

def admissionOptions (configuration : Configuration) : AdmissionOptions :=
  let admission := configuration.admission
  ⟨admission.maxRequests,
    if admission.unboundedQueue then none else some admission.maxQueueSize⟩

def serviceOptions (configuration : Configuration) : ServiceOptions :=
  ⟨configuration.service.serviceName, configuration.service.entityId, configuration.cacheOptions,
    configuration.admissionOptions, limit? configuration.service.pointTimeoutMillis⟩

def serverOptions (configuration : Configuration) : ServerOptions :=
  .ofSettings configuration.service

def telemetryOptions (configuration : Configuration) : TelemetryOptions :=
  let logging := configuration.telemetry.logging
  let metrics := configuration.telemetry.metrics
  ⟨⟨logging.enabled, logging.level, logging.format = .json, false, logging.includeLocation, true⟩,
    ⟨metrics.enabled, metrics.address⟩⟩

def defaultQueryLimit : Span := .ofMillis 30000

def administrationClient (configuration : Configuration) :
    Except ConfigurationFault AdministrationClient :=
  let policy := configuration.policy
  if policy.policySetId.isEmpty then .error (.missingField "policy.policy_set_id")
  else if policy.administrationPoints.isEmpty then .error (.missingField "policy.paps")
  else
    let limit := (limit? policy.fetchTimeoutMillis).getD defaultQueryLimit
    match AdministrationClient.new policy.policySetId policy.administrationPoints limit with
    | .ok client => .ok { client with entityId := configuration.service.entityId }
    | .error fault => .error (.ofService fault)

end Configuration

end DecisionPoint
