import DecisionPoint.Json.Basic
import DecisionPoint.Number.Shortest
import DecisionPoint.Text.Hex

/-!
# Writing JSON

Documents are written without blanks.  In a text, the quote, the backslash and the control
characters below the space are escaped, and nothing else.
-/

set_option autoImplicit false

namespace DecisionPoint.Json

def escapeChar (c : Char) : List Char :=
  if c = '"' then ['\\', '"']
  else if c = '\\' then ['\\', '\\']
  else if c = '\n' then ['\\', 'n']
  else if c = '\r' then ['\\', 'r']
  else if c = '\t' then ['\\', 't']
  else if c.toNat = 8 then ['\\', 'b']
  else if c.toNat = 12 then ['\\', 'f']
  else if c.toNat < 32 then '\\' :: 'u' :: Text.hexDigits 4 c.toNat
  else [c]

def quoted (cs : List Char) : List Char :=
  '"' :: (cs.flatMap escapeChar ++ ['"'])

def Number.chars : Number → List Char
  | .integer value => (toString value).toList
  | .float value => ShortestFormat.compact.render value

mutual

def chars : Json → List Char
  | .null => ['n', 'u', 'l', 'l']
  | .bool true => ['t', 'r', 'u', 'e']
  | .bool false => ['f', 'a', 'l', 's', 'e']
  | .number value => value.chars
  | .string value => quoted value.toList
  | .array elements | .rows elements => '[' :: (charsOfElements elements ++ [']'])
  | .object members => '{' :: (charsOfMembers members ++ ['}'])
  | .unreadable => ['n', 'u', 'l', 'l']

def charsOfElements : List Json → List Char
  | [] => []
  | [value] => value.chars
  | value :: rest => value.chars ++ ',' :: charsOfElements rest

def charsOfMembers : List (String × Json) → List Char
  | [] => []
  | [(name, value)] => quoted name.toList ++ ':' :: value.chars
  | (name, value) :: rest =>
    quoted name.toList ++ ':' :: (value.chars ++ ',' :: charsOfMembers rest)

end

def text (document : Json) : String :=
  String.ofList document.chars

end DecisionPoint.Json
