import DecisionPoint.Json.Reader
import DecisionPoint.Toml.Number

/-!
# Choices in TOML

A choice is a text, or a table with its name as the only key and nothing in it.
-/

set_option autoImplicit false

namespace DecisionPoint.Toml

/-- What a value is called that is neither a table nor an array. -/
def kindOf : Json → String
  | .string _ => "string"
  | .number (.integer _) => "integer"
  | .number (.float _) => "float"
  | .bool _ => "boolean"
  | _ => "datetime"

def isMoment : Json → Bool
  | .object [(name, .unreadable)] => name = momentMember
  | _ => false

def complain {α : Type} (reason : String) : Except Mismatch α :=
  .error (.custom reason)

def readNothing (content : Json) : Except Mismatch Unit :=
  if isMoment content then complain ("expected table, found " ++ kindOf content)
  else
    match content with
    | .array [] | .object [] => .ok ()
    | .rows _ => complain "expected empty array"
    | .array _ | .object _ => complain "expected empty table"
    | content => complain ("expected table, found " ++ kindOf content)

def choose {α : Type} (choices : List (String × α)) (name : String) : Except Mismatch α :=
  match choices.lookup name with
  | some value => .ok value
  | none => .error (.unknownVariant name (choices.map Prod.fst))

def readChoice {α : Type} (choices : List (String × α)) : Json.Reader α := fun found =>
  if isMoment found then complain "wanted string or table"
  else
    match found with
    | .string name => choose choices name
    | .object [] => complain "wanted exactly 1 element, found 0 elements"
    | .object [(name, content)] => do
      let value ← choose choices name
      readNothing content
      pure value
    | .object _ => complain "wanted exactly 1 element, more than 1 element"
    | _ => complain "wanted string or table"

end DecisionPoint.Toml
