import DecisionPoint.Json.Reader

/-!
# Looking into documents

Members of loosely written documents, by name.  A member that is `null` counts as absent where an
absent one is allowed.
-/

set_option autoImplicit false

namespace DecisionPoint.Json

abbrev Lookup (α : Type) : Type := Except String α

def member (document : Json) (name : String) : Lookup Json :=
  match document with
  | .object members =>
    match members.lookup name with
    | some value => .ok value
    | none => .error ("missing " ++ name)
  | _ => .error ("no object for " ++ name)

/-- The member of a name, unless it is absent or `null`. -/
def get? (document : Json) (name : String) : Option Json :=
  match document.member name with
  | .ok .null => none
  | .ok value => some value
  | .error _ => none

def has (document : Json) (name : String) : Bool :=
  match document.member name with
  | .ok _ => true
  | .error _ => false

def asText : Json → Lookup String
  | .string value => .ok value
  | _ => .error "a text is wanted"

def asNat : Json → Lookup Nat
  | .number (.integer value) =>
    if 0 ≤ value then .ok value.toNat else .error "a natural number is wanted"
  | _ => .error "a number is wanted"

def asInt : Json → Lookup Int
  | .number (.integer value) => .ok value
  | _ => .error "a number is wanted"

def asList : Json → Lookup (List Json)
  | .array elements => .ok elements
  | _ => .error "an array is wanted"

def asTyped {α : Type} (read : Reader α) (document : Json) : Lookup α :=
  (read document).mapError Mismatch.message

def optional {α : Type} (form : Json → Lookup α) (document : Json) (name : String) :
    Lookup (Option α) :=
  match document.get? name with
  | none => .ok none
  | some value => (form value).map some

def textAt (document : Json) (name : String) : Lookup String :=
  (document.member name).bind asText

def natAt (document : Json) (name : String) : Lookup Nat :=
  (document.member name).bind asNat

def listAt (document : Json) (name : String) : Lookup (List Json) :=
  (optional asList document name).map fun value => value.getD []

def flagAt (document : Json) (name : String) : Bool :=
  match document.get? name with
  | some (.bool value) => value
  | _ => false

end DecisionPoint.Json
