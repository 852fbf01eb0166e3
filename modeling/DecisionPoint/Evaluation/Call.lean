import DecisionPoint.Information.Point
import DecisionPoint.Obligation.Handler
import DecisionPoint.Policy

/-!
# Calls of collaborators

What the service asks of information points, the engine and handlers, with what it shows them.
-/

set_option autoImplicit false

namespace DecisionPoint

inductive Call where
  | start (point : Point)
  | stop (point : Point)
  | enrich (point : Point) (request : Request)
  | decide (policy : PolicySnapshot) (request : Request)
  | fulfil (handler : Handler) (obligation : Obligation) (outcome : Outcome) (request : Request)
deriving Inhabited

end DecisionPoint
