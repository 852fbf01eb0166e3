import DecisionPoint.Number.Binary64

/-!
# JSON documents

A document keeps the order and the repetitions of object members as written.  `unreadable` is a
literal that has a form but no value: a number beyond the largest double, or a text with an
unpaired surrogate.  It may stand where a reader looks away, and nowhere else.  `rows` is an array
whose elements stand under headers of their own, in texts that have headers; it is read like any
other array.
-/

set_option autoImplicit false

namespace DecisionPoint

namespace Json

/-- A number: an integer that fits a 64-bit word, signed or unsigned, or a double. -/
inductive Number where
  | integer (value : Int)
  | float (value : Binary64)
deriving DecidableEq, Repr, Inhabited

end Json

inductive Json where
  | null
  | bool (value : Bool)
  | number (value : Json.Number)
  | string (value : String)
  | array (elements : List Json)
  | object (members : List (String × Json))
  | rows (elements : List Json)
  | unreadable
deriving Repr, Inhabited

namespace Json

def nat (n : Nat) : Json :=
  .number (.integer n)

def int (n : Int) : Json :=
  .number (.integer n)

def option {α : Type} (encode : α → Json) : Option α → Json
  | none => .null
  | some a => encode a

def strings (values : List String) : Json :=
  .array (values.map .string)

/-- A member written only when its value is present. -/
def member? {α : Type} (name : String) (encode : α → Json) : Option α → List (String × Json)
  | none => []
  | some a => [(name, encode a)]

mutual

def depth : Json → Nat
  | .array elements | .rows elements => depthOfElements elements + 1
  | .object members => depthOfMembers members + 1
  | _ => 0

def depthOfElements : List Json → Nat
  | [] => 0
  | value :: rest => max value.depth (depthOfElements rest)

def depthOfMembers : List (String × Json) → Nat
  | [] => 0
  | (_, value) :: rest => max value.depth (depthOfMembers rest)

end

mutual

def readable : Json → Bool
  | .unreadable => false
  | .array elements | .rows elements => readableElements elements
  | .object members => readableMembers members
  | _ => true

def readableElements : List Json → Bool
  | [] => true
  | value :: rest => value.readable && readableElements rest

def readableMembers : List (String × Json) → Bool
  | [] => true
  | (_, value) :: rest => value.readable && readableMembers rest

end

/-- The deepest nesting of arrays and objects that a value may have. -/
def maxDepth : Nat := 127

/-- Whether a document stands for a value when it is found `level` arrays or objects deep. -/
def hasValueAt (level : Nat) (document : Json) : Bool :=
  document.readable && (document.depth + level ≤ maxDepth)

/-- Puts a member into a list sorted by name; a member of the same name gives way. -/
def insertSorted (name : String) (value : Json) : List (String × Json) → List (String × Json)
  | [] => [(name, value)]
  | (other, kept) :: rest =>
    if name = other then (name, value) :: rest
    else if name < other then (name, value) :: (other, kept) :: rest
    else (other, kept) :: insertSorted name value rest

mutual

/-- The same value with the members of each object sorted by name, the last of a name kept. -/
def canonical : Json → Json
  | .array elements | .rows elements => .array (canonicalElements elements)
  | .object members => .object (canonicalMembers members [])
  | other => other

def canonicalElements : List Json → List Json
  | [] => []
  | value :: rest => value.canonical :: canonicalElements rest

def canonicalMembers : List (String × Json) → List (String × Json) → List (String × Json)
  | [], sorted => sorted
  | (name, value) :: rest, sorted =>
    canonicalMembers rest (insertSorted name value.canonical sorted)

end

end Json

end DecisionPoint
