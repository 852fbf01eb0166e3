import DecisionPoint.Text.Hex

/-!
# Texts and keys in TOML

Texts in double quotes know escapes, those in single quotes do not; three quotes in a row begin and
end a text that may go over several lines.  A key is bare or a text of one line.

Each function here splits something off the front of the characters and gives what is left; there is
no answer when it is not there.
-/

set_option autoImplicit false

namespace DecisionPoint.Toml

def isBlank (c : Char) : Bool :=
  c = ' ' || c = '\t'

def skipBlanks (cs : List Char) : List Char :=
  cs.dropWhile isBlank

def isPrintable (c : Char) : Bool :=
  c = '\t' || (32 ≤ c.toNat && c.toNat ≠ 127)

def spanNewline : List Char → Option (List Char)
  | '\n' :: rest => some rest
  | '\r' :: '\n' :: rest => some rest
  | _ => none

def charOf (number : Nat) : Option Char :=
  if h : number.isValidChar then some (.ofNatAux number h) else none

/-- A character given by `count` hexadecimal digits. -/
def spanCodePoint (count : Nat) (cs : List Char) : Option (Char × List Char) :=
  let digits := cs.take count
  if digits.length = count then
    ((Text.hexNumber digits).bind charOf).map (·, cs.drop count)
  else none

def spanEscape : List Char → Option (Char × List Char)
  | 'b' :: rest => some (Char.ofNat 8, rest)
  | 't' :: rest => some ('\t', rest)
  | 'n' :: rest => some ('\n', rest)
  | 'f' :: rest => some (Char.ofNat 12, rest)
  | 'r' :: rest => some ('\r', rest)
  | '"' :: rest => some ('"', rest)
  | '\\' :: rest => some ('\\', rest)
  | 'u' :: rest => spanCodePoint 4 rest
  | 'U' :: rest => spanCodePoint 8 rest
  | _ => none

/-- The rest of a text of one line with escapes, after its opening quote. -/
def spanBasic : Nat → List Char → Option (List Char × List Char)
  | 0, _ => none
  | _ + 1, [] => none
  | fuel + 1, c :: rest =>
    if c = '"' then some ([], rest)
    else if c = '\\' then
      match spanEscape rest with
      | none => none
      | some (c, rest) => (spanBasic fuel rest).map fun (text, tail) => (c :: text, tail)
    else if isPrintable c then (spanBasic fuel rest).map fun (text, tail) => (c :: text, tail)
    else none

/-- The rest of a text of one line without escapes, after its opening quote. -/
def spanLiteral : List Char → Option (List Char × List Char)
  | [] => none
  | c :: rest =>
    if c = '\'' then some ([], rest)
    else if isPrintable c then (spanLiteral rest).map fun (text, tail) => (c :: text, tail)
    else none

def skipLayout : Nat → List Char → List Char
  | 0, cs => cs
  | fuel + 1, cs =>
    match skipBlanks cs with
    | '\n' :: rest => skipLayout fuel rest
    | '\r' :: '\n' :: rest => skipLayout fuel rest
    | rest => rest

/-- A backslash at the end of a line takes the blanks and line ends after it away. -/
def spanContinuation (cs : List Char) : Option (List Char) :=
  (spanNewline (skipBlanks cs)).map fun rest => skipLayout (rest.length + 1) rest

/-- The rest of a text over several lines, after its opening quotes.  Up to two quotes may stand
before the closing ones. -/
def spanLines (quote : Char) (escapes : Bool) : Nat → List Char → Option (List Char × List Char)
  | 0, _ => none
  | _ + 1, [] => none
  | fuel + 1, c :: rest =>
    if c = quote then
      let run := (c :: rest).takeWhile (· = quote)
      let after := (c :: rest).dropWhile (· = quote)
      if run.length < 3 then
        (spanLines quote escapes fuel after).map fun (text, tail) => (run ++ text, tail)
      else if run.length < 6 then some (run.drop 3, after)
      else none
    else if c = '\\' && escapes then
      match spanContinuation rest with
      | some rest => spanLines quote escapes fuel rest
      | none =>
        match spanEscape rest with
        | none => none
        | some (c, rest) =>
          (spanLines quote escapes fuel rest).map fun (text, tail) => (c :: text, tail)
    else
      match spanNewline (c :: rest) with
      | some rest =>
        (spanLines quote escapes fuel rest).map fun (text, tail) => ('\n' :: text, tail)
      | none =>
        if isPrintable c then
          (spanLines quote escapes fuel rest).map fun (text, tail) => (c :: text, tail)
        else none

/-- A text over several lines, after its opening quotes.  A line end right there does not count. -/
def spanBlock (quote : Char) (escapes : Bool) (cs : List Char) :
    Option (List Char × List Char) :=
  let cs := (spanNewline cs).getD cs
  spanLines quote escapes (cs.length + 1) cs

def spanLineText : List Char → Option (List Char × List Char)
  | '"' :: rest => spanBasic (rest.length + 1) rest
  | '\'' :: rest => spanLiteral rest
  | _ => none

def spanText : List Char → Option (List Char × List Char)
  | '"' :: '"' :: '"' :: rest => spanBlock '"' true rest
  | '\'' :: '\'' :: '\'' :: rest => spanBlock '\'' false rest
  | cs => spanLineText cs

def isBare (c : Char) : Bool :=
  c.isAlphanum || c = '-' || c = '_'

def spanSimpleKey (cs : List Char) : Option (String × List Char) :=
  match cs.takeWhile isBare with
  | [] => (spanLineText cs).map fun (text, tail) => (String.ofList text, tail)
  | bare => some (String.ofList bare, cs.dropWhile isBare)

/-- A key, perhaps with dots; blanks may stand around each part. -/
def spanKeys : Nat → List Char → Option (List String × List Char)
  | 0, _ => none
  | fuel + 1, cs =>
    match spanSimpleKey (skipBlanks cs) with
    | none => none
    | some (key, rest) =>
      match skipBlanks rest with
      | '.' :: rest => (spanKeys fuel rest).map fun (keys, tail) => (key :: keys, tail)
      | rest => some ([key], rest)

/-- How deep keys, arrays and tables in braces may go. -/
def maxDepth : Nat := 79

def spanKey (cs : List Char) : Option ((List String × String) × List Char) :=
  match spanKeys (cs.length + 1) cs with
  | none => none
  | some (keys, rest) =>
    if maxDepth < keys.length then none
    else keys.getLast?.map fun last => ((keys.dropLast, last), rest)

def skipComment : List Char → List Char
  | '#' :: rest => rest.dropWhile isPrintable
  | cs => cs

/-- The end of a line of content: blanks, perhaps a comment, and the end of the line or of the
document. -/
def spanLineEnd (cs : List Char) : Option (List Char) :=
  match skipComment (skipBlanks cs) with
  | [] => some []
  | cs => spanNewline cs

end DecisionPoint.Toml
