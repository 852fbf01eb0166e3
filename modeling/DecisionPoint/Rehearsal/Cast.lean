import DecisionPoint.Bootstrap
import DecisionPoint.Obligation.Registry
import DecisionPoint.Rehearsal.Reading
import DecisionPoint.Telemetry.Setup

/-!
# Casts of rehearsals

All collaborators of a rehearsal together, and what is told to telemetry, as documents describe
them.
-/

set_option autoImplicit false

namespace DecisionPoint.Rehearsal

open Json

def eachAt {α : Type} (document : Json) (name : String) (read : Json → Lookup α) :
    Lookup (List α) := do
  (← document.listAt name).mapM read

structure Cast where
  source : ScriptedSource
  engine : Engine
  points : List Point
  handlers : List Handler
  registry : HandlerRegistry

def registryWith (handlers : List Handler) : Lookup HandlerRegistry :=
  handlers.foldlM
    (fun registry handler => (registry.register handler).mapError RegistryFault.message) .empty

def castOf (document : Json) : Lookup Cast := do
  let source ← sourceOf ((document.get? "source").getD (.object []))
  let rules ← eachAt document "engine" ruleOf
  let points ← eachAt document "pips" pointOf
  let handlers ← eachAt document "handlers" handlerOf
  let unregistered ← eachAt document "unregistered" asText
  let registry ← registryWith (handlers.filter fun handler => !unregistered.contains handler.name)
  pure ⟨source, .ofRules rules, points, handlers, registry⟩

/-- The collaborators of a service that is put together from a configuration; its engine decides
nothing and its own source has nothing. -/
def collaboratorsOf (document : Json) : Lookup Collaborators := do
  let points ← eachAt document "pips" pointOf
  let registry ← registryWith (← eachAt document "handlers" handlerOf)
  let source := if document.flagAt "source" then some ScriptedSource.unavailable else none
  let engine := if document.flagAt "engine" then some (Engine.ofRules []) else none
  pure ⟨source, engine, points, some registry, fun _ => .refused⟩

def observationOf (document : Json) : Lookup Observation := do
  match ← document.textAt "do" with
  | "decision" => pure (.decision (← document.textAt "arg"))
  | "request_error" => pure (.error (← document.textAt "arg"))
  | "obligation" => pure (.obligation (← document.textAt "arg"))
  | "rejection" => pure .rejection
  | "refresh" => pure (.refresh (document.flagAt "arg"))
  | "audit" =>
    let policyId ← optional asText document "arg"
    pure (.audit ⟨1, none, "req-", policyId, none, .deny, "x"⟩)
  | other => .error ("unknown observation " ++ other)

end DecisionPoint.Rehearsal
