import DecisionPoint.Outcome
import DecisionPoint.Policy
import DecisionPoint.Request.Basic

/-!
# Engines

An engine decides a request under a policy.  What policies mean is its own affair.
-/

set_option autoImplicit false

namespace DecisionPoint

inductive EngineAnswer where
  | decided (outcome : Outcome)
  | failed (reason : String)
  | panicked
deriving DecidableEq, Inhabited

abbrev Engine : Type := Request → PolicySnapshot → EngineAnswer

/-- Asks an engine; one that breaks off has failed. -/
def Engine.ask (engine : Engine) (request : Request) (policy : PolicySnapshot) :
    Except String Outcome :=
  match engine request policy with
  | .decided outcome => .ok outcome
  | .failed reason => .error reason
  | .panicked => .error "evaluation engine panicked"

end DecisionPoint
