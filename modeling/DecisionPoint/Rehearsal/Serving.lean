import DecisionPoint.Bootstrap
import DecisionPoint.Rehearsal.Scene
import DecisionPoint.Telemetry.Setup

/-!
# Rehearsals of serving

A server binds its addresses, starts its service and serves until it is told to shut down.  Here
that is at once, so that the service is stopped as soon as it has started.
-/

set_option autoImplicit false

namespace DecisionPoint

namespace Scene

def startAndStop (scene : Scene) : Option (Scene × Except ServerFault Unit) := do
  let (scene, answer) ← scene.perform (.starting .fresh)
  match answer with
  | .started (.error fault) => some (scene, .error (.service fault))
  | _ =>
    let (scene, _) ← scene.perform (.stopping .fresh)
    some (scene, .ok ())

def serve (scene : Scene) (server : ServerOptions) : Option (Scene × Except ServerFault Unit) :=
  match server.bind with
  | .error fault => some (scene, .error fault)
  | .ok _ => scene.startAndStop

end Scene

namespace Configuration

/-- Sets telemetry up, puts the service together and serves; the calls that were made. -/
def serve (configuration : Configuration) (collaborators : Collaborators) :
    Option (List Call × Except BootstrapFault Unit) :=
  match (Telemetry.none.install configuration.telemetryOptions).2 with
  | .error fault => some ([], .error (.telemetry fault))
  | .ok () =>
    match configuration.assemble collaborators .epoch with
    | .error fault => some ([], .error fault)
    | .ok assembly =>
      ((Scene.start assembly.service assembly.server).serve assembly.server).map
        fun (scene, result) => (scene.service.calls, result.mapError .server)

end Configuration

end DecisionPoint
