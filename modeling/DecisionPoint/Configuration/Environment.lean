import DecisionPoint.Keyed

/-!
# Variables of the environment

Variables have a name and a value, and no two of them one name.
-/

set_option autoImplicit false

namespace DecisionPoint

structure Variable where
  name : String
  value : String
deriving DecidableEq, Repr, Inhabited

abbrev Environment : Type := Keyed Variable.name

namespace Environment

def valueOf? (environment : Environment) (name : String) : Option String :=
  (environment.get? name).map Variable.value

def defineMissing (environment : Environment) (item : Variable) : Environment :=
  if (environment.get? item.name).isSome then environment else environment.insert item

end Environment

end DecisionPoint
