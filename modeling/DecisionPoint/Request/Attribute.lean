import DecisionPoint.Fault
import DecisionPoint.Json.Reader
import DecisionPoint.Keyed

/-!
# Attributes

An attribute has an identifier, a data type, perhaps an issuer, and any number of values.  A set
of attributes keeps one attribute for each identifier, in order of first mention.
-/

set_option autoImplicit false

namespace DecisionPoint

def resourceIdAttribute : String := "urn:oasis:names:tc:xacml:1.0:resource:resource-id"

def stringDataType : String := "http://www.w3.org/2001/XMLSchema#string"

/-- A named, typed property with values. -/
structure Attribute where
  id : String
  dataType : String
  issuer : Option String
  values : List String
deriving DecidableEq, Repr, Inhabited

namespace Attribute

def single (id value : String) : Attribute :=
  ⟨id, stringDataType, none, [value]⟩

def toJson (entry : Attribute) : Json :=
  .object <|
    [("id", .string entry.id), ("data_type", .string entry.dataType)] ++
      Json.member? "issuer" .string entry.issuer ++
      [("values", Json.strings entry.values)]

structure Draft where
  id : Option String
  dataType : Option String
  issuer : Option (Option String)
  values : Option (List String)

open Json in
def record (dialect : Dialect) : Record Draft Attribute where
  title := "struct Attribute"
  blank := ⟨none, none, none, none⟩
  fields :=
    [field "id" false (readString dialect) fun d v => { d with id := some v },
      field "data_type" true (readString dialect) fun d v => { d with dataType := some v },
      field "issuer" true (readOption (readString dialect)) fun d v => { d with issuer := some v },
      field "values" true (readList dialect (readString dialect)) fun d v =>
        { d with values := some v }]
  strict := false
  finish d := do
    let id ← required "id" d.id
    pure ⟨id, d.dataType.getD stringDataType, d.issuer.join, d.values.getD []⟩

def read : Json.Reader Attribute :=
  (record .json).read .json

end Attribute

/-- Attributes in order, one for each identifier. -/
abbrev AttributeSet : Type := Keyed Attribute.id

namespace AttributeSet

def firstValue? (set : AttributeSet) (id : String) : Option String :=
  (set.get? id).bind fun entry => entry.values.head?

def addMissing (held new : List String) : List String :=
  new.foldl (fun held value => if value ∈ held then held else held ++ [value]) held

/-- Adds an attribute without disturbing what is there: a new identifier is appended, and values
that are missing join an attribute of the same type.  Tells whether anything changed. -/
def merge (set : AttributeSet) (entry : Attribute) :
    Except InformationFault (AttributeSet × Bool) :=
  match set.get? entry.id with
  | none => .ok (set.insert entry, true)
  | some held =>
    if held.dataType ≠ entry.dataType then
      .error (.conflict entry.id held.dataType entry.dataType)
    else
      let values := addMissing held.values entry.values
      .ok (set.insert { held with values := values }, held.values.length < values.length)

def toJson (set : AttributeSet) : Json :=
  .array (set.items.map Attribute.toJson)

/-- Reads a set; the last attribute of an identifier counts. -/
def read : Json.Reader AttributeSet :=
  fun document => (Json.readList .json Attribute.read document).map Keyed.ofList

end AttributeSet

end DecisionPoint
