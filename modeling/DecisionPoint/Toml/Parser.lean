import DecisionPoint.Toml.Number
import DecisionPoint.Toml.Text
import DecisionPoint.Toml.Tree

/-!
# Reading TOML

`Toml.parse` reads a document of lines: headers, keys with values, and comments.  The members of
each table keep the order of their first mention.
-/

set_option autoImplicit false

namespace DecisionPoint.Toml

def skipLines : Nat → List Char → List Char
  | 0, cs => cs
  | fuel + 1, cs =>
    let rest := skipBlanks cs
    match spanNewline (skipComment rest) with
    | some after => skipLines fuel after
    | none => rest

def tableOf (members : List ((List String × String) × Json)) : Option Json :=
  (members.foldlM (fun table ((path, key), content) => assign path key content table) []).map
    fun table => .object (membersToJson table)

mutual

/-- Splits off a value that stands in `depth` arrays and tables in braces. -/
def spanValue (depth : Nat) : Nat → List Char → Option (Json × List Char)
  | 0, _ => none
  | fuel + 1, cs =>
    match cs with
    | 't' :: 'r' :: 'u' :: 'e' :: rest => some (.bool true, rest)
    | 'f' :: 'a' :: 'l' :: 's' :: 'e' :: rest => some (.bool false, rest)
    | '[' :: rest =>
      if maxDepth ≤ depth then none
      else (spanElements (depth + 1) fuel rest).map fun (elements, tail) => (.array elements, tail)
    | '{' :: rest =>
      if maxDepth ≤ depth then none
      else
        match skipBlanks rest with
        | '}' :: rest => some (.object [], rest)
        | rest =>
          match spanMembers (depth + 1) fuel rest with
          | none => none
          | some (members, rest) => (tableOf members).map (·, rest)
    | cs =>
      match spanText cs with
      | some (text, rest) => some (.string (String.ofList text), rest)
      | none => spanQuantity cs

def spanElements (depth : Nat) : Nat → List Char → Option (List Json × List Char)
  | 0, _ => none
  | fuel + 1, cs =>
    match skipLines (cs.length + 1) cs with
    | ']' :: rest => some ([], rest)
    | cs =>
      match spanValue depth fuel cs with
      | none => none
      | some (value, rest) =>
        match skipLines (rest.length + 1) rest with
        | ']' :: rest => some ([value], rest)
        | ',' :: rest =>
          (spanElements depth fuel rest).map fun (elements, tail) => (value :: elements, tail)
        | _ => none

/-- Splits off the members of a table in braces and its closing brace. -/
def spanMembers (depth : Nat) :
    Nat → List Char → Option (List ((List String × String) × Json) × List Char)
  | 0, _ => none
  | fuel + 1, cs =>
    match spanKey cs with
    | some (key, '=' :: rest) =>
      match spanValue depth fuel (skipBlanks rest) with
      | none => none
      | some (value, rest) =>
        match skipBlanks rest with
        | '}' :: rest => some ([(key, value)], rest)
        | ',' :: rest =>
          (spanMembers depth fuel rest).map fun (members, tail) => ((key, value) :: members, tail)
        | _ => none
    | _ => none

end

/-- Splits off a line that gives a key a value. -/
def spanAssignment (draft : Draft) (cs : List Char) : Option (Draft × List Char) :=
  match spanKey cs with
  | some ((path, key), '=' :: rest) => do
    let rest := skipBlanks rest
    let (value, rest) ← spanValue 0 (rest.length + 1) rest
    let rest ← spanLineEnd rest
    (draft.add path key value).map (·, rest)
  | _ => none

def spanHeader (draft : Draft) (cs : List Char) : Option (Draft × List Char) :=
  match cs with
  | '[' :: rest =>
    match spanKey rest with
    | some ((parents, key), ']' :: ']' :: rest) => do
      let rest ← spanLineEnd rest
      (draft.begin ⟨parents, key, true⟩).map (·, rest)
    | _ => none
  | cs =>
    match spanKey cs with
    | some ((parents, key), ']' :: rest) => do
      let rest ← spanLineEnd rest
      (draft.begin ⟨parents, key, false⟩).map (·, rest)
    | _ => none

def readLines : Nat → Draft → List Char → Option Draft
  | 0, _, _ => none
  | fuel + 1, draft, cs =>
    match skipLines (cs.length + 1) cs with
    | [] => some draft
    | '#' :: rest => if (spanLineEnd ('#' :: rest)).isSome then some draft else none
    | '[' :: rest =>
      match spanHeader draft rest with
      | none => none
      | some (draft, rest) => readLines fuel draft rest
    | cs =>
      match spanAssignment draft cs with
      | none => none
      | some (draft, rest) => readLines fuel draft rest

def parseChars (cs : List Char) : Option Json :=
  (readLines (cs.length + 1) .blank cs).bind Draft.finish

/-- The mark that may stand at the start of a text and counts for nothing. -/
def byteOrderMark : Char := Char.ofNat 0xFEFF

def parse (text : String) : Option Json :=
  match text.toList with
  | [] => parseChars []
  | c :: rest => parseChars (if c = byteOrderMark then rest else c :: rest)

end DecisionPoint.Toml
