import DecisionPoint.Json.Parser
import DecisionPoint.Number.Shortest
import DecisionPoint.Text.Quoted

/-!
# Reading typed values from documents

A reader takes a document apart in the order in which it is written and reports the first thing
that does not fit.  A record is an object or an array of its fields; a choice is a name, or an
object with that name as its only member.  `decode` reads a text, and tells a text that is no
document from a document that does not fit.
-/

set_option autoImplicit false

namespace DecisionPoint

/-- Why a document does not fit a type. -/
inductive Mismatch where
  | invalidType (found expected : String)
  | invalidValue (found expected : String)
  | invalidLength (length : Nat) (expected : String)
  | missingField (name : String)
  | unknownField (name : String) (expected : List String)
  | duplicateField (name : String)
  | unknownVariant (name : String) (expected : List String)
  | expectedValue
  | trailingElements
  | invalidTimestamp
  | unreadable
  | custom (message : String)
deriving DecidableEq, Repr

namespace Mismatch

def marked (name : String) : String :=
  "`" ++ name ++ "`"

def alternatives : List String → String
  | [] => "nothing"
  | [a] => marked a
  | [a, b] => marked a ++ " or " ++ marked b
  | names => "one of " ++ ", ".intercalate (names.map marked)

def message : Mismatch → String
  | invalidType found expected => "invalid type: " ++ found ++ ", expected " ++ expected
  | invalidValue found expected => "invalid value: " ++ found ++ ", expected " ++ expected
  | invalidLength length expected =>
    "invalid length " ++ toString length ++ ", expected " ++ expected
  | missingField name => "missing field " ++ marked name
  | unknownField name expected =>
    "unknown field " ++ marked name ++ ", expected " ++ alternatives expected
  | duplicateField name => "duplicate field " ++ marked name
  | unknownVariant name expected =>
    "unknown variant " ++ marked name ++ ", expected " ++ alternatives expected
  | expectedValue => "expected value"
  | trailingElements => "trailing characters"
  | invalidTimestamp => "invalid timestamp"
  | unreadable => "unreadable literal"
  | custom message => message

end Mismatch

namespace Json

def description (format : ShortestFormat) : Json → String
  | .null => "null"
  | .bool value => "boolean " ++ Mismatch.marked (if value then "true" else "false")
  | .number (.integer value) => "integer " ++ Mismatch.marked (toString value)
  | .number (.float value) =>
    "floating point " ++ Mismatch.marked (String.ofList (format.render value))
  | .string value => "string " ++ Text.quoted value
  | .array _ | .rows _ => "sequence"
  | .object _ => "map"
  | .unreadable => "unreadable literal"

/-- Which kind of text a document comes from.  The kinds differ in how doubles are spelt in
mismatches and in what an array may hold beyond the fields of a record. -/
inductive Dialect where
  | json
  | toml
deriving DecidableEq, Repr

def Dialect.format : Dialect → ShortestFormat
  | .json => .compact
  | .toml => .positional

abbrev Reader (α : Type) := Json → Except Mismatch α

def wrongType (dialect : Dialect) (found : Json) (expected : String) : Mismatch :=
  match found with
  | .unreadable => .unreadable
  | found => .invalidType (found.description dialect.format) expected

def readString (dialect : Dialect) : Reader String
  | .string value => .ok value
  | found => .error (wrongType dialect found "a string")

def readBool (dialect : Dialect) : Reader Bool
  | .bool value => .ok value
  | found => .error (wrongType dialect found "a boolean")

/-- Reads a natural number below `2 ^ bits`; `label` names the type of number. -/
def readUnsigned (dialect : Dialect) (bits : Nat) (label : String) : Reader Nat
  | .number (.integer value) =>
    if 0 ≤ value ∧ value < Nat.pow 2 bits then .ok value.toNat
    else .error (.invalidValue ("integer " ++ Mismatch.marked (toString value)) label)
  | found => .error (wrongType dialect found label)

def readWord (dialect : Dialect) (label : String) : Reader UInt64 :=
  fun found => (readUnsigned dialect 64 label found).map UInt64.ofNat

def readSigned (dialect : Dialect) : Reader Int64
  | .number (.integer value) =>
    if Int64.minValue.toInt ≤ value ∧ value ≤ Int64.maxValue.toInt then .ok (Int64.ofInt value)
    else .error (.invalidValue ("integer " ++ Mismatch.marked (toString value)) "i64")
  | found => .error (wrongType dialect found "i64")

def readOption {α : Type} (read : Reader α) : Reader (Option α)
  | .null => .ok none
  | found => (read found).map some

def readList {α : Type} (dialect : Dialect) (read : Reader α) : Reader (List α)
  | .array elements | .rows elements => elements.mapM read
  | found => .error (wrongType dialect found "a sequence")

def readMembers {α δ : Type} (dialect : Dialect) (read : Reader α) (insert : δ → String → α → δ)
    (start : δ) : Reader δ
  | .object members =>
    members.foldlM (fun placed (name, value) => (read value).map (insert placed name)) start
  | found => .error (wrongType dialect found "a map")

/-! ## Records -/

/-- A field of a record: reading it fills its place in the draft `δ`. -/
structure Field (δ : Type) where
  name : String
  omissible : Bool
  fill : δ → Json → Except Mismatch δ

def field {δ β : Type} (name : String) (omissible : Bool) (read : Reader β) (set : δ → β → δ) :
    Field δ :=
  ⟨name, omissible, fun draft value => (read value).map (set draft)⟩

/-- A record that is gathered in a draft `δ` and finished to an `α`. -/
structure Record (δ α : Type) where
  title : String
  blank : δ
  fields : List (Field δ)
  strict : Bool
  finish : δ → Except Mismatch α

namespace Record

variable {δ α : Type}

def names (record : Record δ α) : List String :=
  record.fields.map Field.name

/-- The record and its number of fields, as mismatches name them. -/
def titleWithLength (record : Record δ α) : String :=
  let count := record.fields.length
  record.title ++ " with " ++ toString count ++ (if count = 1 then " element" else " elements")

/-- Fills a draft from the members of an object; `seen` holds the fields that were filled. -/
def fillMembers (record : Record δ α) :
    List (String × Json) → List String → δ → Except Mismatch δ
  | [], _, draft => .ok draft
  | (name, value) :: rest, seen, draft =>
    match record.fields.find? (fun field => field.name = name) with
    | none =>
      if record.strict then .error (.unknownField name record.names)
      else fillMembers record rest seen draft
    | some field =>
      if name ∈ seen then .error (.duplicateField name)
      else do fillMembers record rest (name :: seen) (← field.fill draft value)

/-- Fills a draft from the elements of an array, which stand for the fields in order. -/
def fillElements (record : Record δ α) (dialect : Dialect) :
    List (Field δ) → List Json → Nat → δ → Except Mismatch δ
  | [], [], _, draft => .ok draft
  | [], _ :: _, _, draft =>
    match dialect with
    | .json => .error .trailingElements
    | .toml => .ok draft
  | field :: fields, [], index, draft =>
    if field.omissible then fillElements record dialect fields [] (index + 1) draft
    else .error (.invalidLength index record.titleWithLength)
  | field :: fields, value :: values, index, draft => do
    fillElements record dialect fields values (index + 1) (← field.fill draft value)

def read (record : Record δ α) (dialect : Dialect) : Reader α
  | .object members => do record.finish (← record.fillMembers members [] record.blank)
  | .array elements | .rows elements => do
    record.finish (← record.fillElements dialect record.fields elements 0 record.blank)
  | found => .error (wrongType dialect found record.title)

end Record

def required {α : Type} (name : String) : Option α → Except Mismatch α
  | some value => .ok value
  | none => .error (.missingField name)

/-! ## Choices -/

/-- What follows the name of a choice. -/
inductive Variant (α : Type) where
  | plain (value : α)
  | holding (form : String) (read : Reader α)

def readVariant {α : Type} (dialect : Dialect) (variants : List (String × Variant α)) : Reader α
  | .string name =>
    match variants.lookup name with
    | some (.plain value) => .ok value
    | some (.holding form _) => .error (.invalidType "unit variant" form)
    | none => .error (.unknownVariant name (variants.map Prod.fst))
  | .object ((name, content) :: rest) => do
    let value ←
      match variants.lookup name with
      | some (.plain value) =>
        match content with
        | .null => Except.ok value
        | content => .error (wrongType dialect content "unit")
      | some (.holding _ read) => read content
      | none => .error (.unknownVariant name (variants.map Prod.fst))
    if rest.isEmpty then .ok value else .error .expectedValue
  | .unreadable => .error .unreadable
  | _ => .error .expectedValue

def readChoice {α : Type} (dialect : Dialect) (choices : List (String × α)) : Reader α :=
  readVariant dialect (choices.map fun (name, value) => (name, .plain value))

/-! ## Texts -/

/-- Why a text does not give a value. -/
inductive DecodeError where
  /-- The text is no document, or one that holds a literal without a value. -/
  | malformed
  | mismatch (reason : Mismatch)
deriving DecidableEq, Repr

def decode {α : Type} (read : Reader α) (text : String) : Except DecodeError α :=
  match parse text with
  | none => .error .malformed
  | some document =>
    match read document with
    | .ok value => .ok value
    | .error reason =>
      if document.hasValueAt 0 then .error (.mismatch reason) else .error .malformed

end Json

end DecisionPoint
