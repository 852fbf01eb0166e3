import DecisionPoint.Configuration.Components
import DecisionPoint.Configuration.Validation
import DecisionPoint.Http.Fault
import DecisionPoint.Http.Server
import DecisionPoint.Telemetry.Fault

/-!
# From a configuration to a service

A valid configuration gives a service with its collaborators, and the options of its server.
Without a policy source of its own the service asks the administration points of the configuration.
-/

set_option autoImplicit false

namespace DecisionPoint

inductive BootstrapFault where
  | configuration (fault : ConfigurationFault)
  | telemetry (fault : TelemetryFault)
  | service (fault : ServiceFault)
  | server (fault : ServerFault)
deriving DecidableEq, Repr

namespace BootstrapFault

def message : BootstrapFault → String
  | configuration fault => fault.message
  | telemetry fault => fault.message
  | service fault => fault.message
  | server fault => fault.message

end BootstrapFault

/-- What a service is put together from, beside its configuration. -/
structure Collaborators where
  source : Option ScriptedSource
  engine : Option Engine
  points : List Point
  registry : Option HandlerRegistry
  network : Nat → Exchange

/-- A service and the options of its server. -/
structure Assembly where
  service : Service
  server : ServerOptions

namespace Configuration

/-- The source that asks administration points; they do the same each time. -/
def administrationSource (configuration : Configuration) (loadedAt : Instant)
    (network : Nat → Exchange) : Except ConfigurationFault ScriptedSource := do
  let client ← configuration.administrationClient
  pure (client.source loadedAt network)

def assemble (configuration : Configuration) (collaborators : Collaborators) (startedAt : Instant) :
    Except BootstrapFault Assembly := do
  configuration.validate.mapError .configuration
  let source ←
    match collaborators.source with
    | some source => pure source
    | none =>
      (configuration.administrationSource startedAt collaborators.network).mapError .configuration
  let service ←
    (Service.build configuration.serviceOptions (some source) collaborators.engine
      collaborators.points collaborators.registry startedAt).mapError .service
  pure ⟨service, configuration.serverOptions⟩

end Configuration

end DecisionPoint
