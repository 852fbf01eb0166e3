import DecisionPoint.Request.Enrichment

/-!
# Conditions on requests
-/

set_option autoImplicit false

namespace DecisionPoint

/-- What the first value of an attribute has to be; without a value there may be none. -/
structure Condition where
  category : Category
  id : String
  value : Option String
deriving DecidableEq, Repr

namespace Condition

def holds (condition : Condition) (request : Request) : Bool :=
  AttributeSet.firstValue? (Enrichment.attributes request condition.category) condition.id =
    condition.value

def holdsIfAny (condition : Option Condition) (request : Request) : Bool :=
  condition.all fun condition => condition.holds request

end Condition

end DecisionPoint
