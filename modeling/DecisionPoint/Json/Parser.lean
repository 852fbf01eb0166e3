import DecisionPoint.Json.Basic
import DecisionPoint.Text.Hex

/-!
# Reading JSON

`Json.parse` accepts the texts of RFC 8259.  Nothing may follow the document but blanks.  Literals
without a value are kept as `unreadable`; `Json.hasValueAt` tells whether a document holds any.
-/

set_option autoImplicit false

namespace DecisionPoint.Json

def isBlank (c : Char) : Bool :=
  c = ' ' || c = '\t' || c = '\n' || c = '\r'

def skipBlanks (cs : List Char) : List Char :=
  cs.dropWhile isBlank

def digitValue (c : Char) : Nat :=
  c.toNat - 48

def spanDigits (cs : List Char) : List Char × List Char :=
  (cs.takeWhile Char.isDigit, cs.dropWhile Char.isDigit)

/-- The parts of a number as written. -/
structure Numeral where
  negative : Bool
  whole : List Char
  fraction : Option (List Char)
  exponent : Option (Bool × List Char)

/-- Splits off an exponent.  No answer for a mark without digits. -/
def spanExponent (cs : List Char) : Option (Option (Bool × List Char) × List Char) :=
  match cs with
  | c :: rest =>
    if c = 'e' || c = 'E' then
      let (negative, rest) :=
        match rest with
        | '-' :: rest => (true, rest)
        | '+' :: rest => (false, rest)
        | rest => (false, rest)
      match spanDigits rest with
      | ([], _) => none
      | (digits, rest) => some (some (negative, digits), rest)
    else some (none, cs)
  | [] => some (none, [])

/-- Splits off a fraction.  No answer for a point without digits. -/
def spanFraction (cs : List Char) : Option (Option (List Char) × List Char) :=
  match cs with
  | '.' :: rest =>
    match spanDigits rest with
    | ([], _) => none
    | (digits, rest) => some (some digits, rest)
  | _ => some (none, cs)

/-- Splits off a number.  A whole part of more than one digit does not start with a zero. -/
def spanNumeral (cs : List Char) : Option (Numeral × List Char) :=
  let (negative, cs) :=
    match cs with
    | '-' :: rest => (true, rest)
    | _ => (false, cs)
  match spanDigits cs with
  | ([], _) => none
  | ('0' :: _ :: _, _) => none
  | (whole, rest) =>
    match spanFraction rest with
    | none => none
    | some (fraction, rest) =>
      match spanExponent rest with
      | none => none
      | some (exponent, rest) => some (⟨negative, whole, fraction, exponent⟩, rest)

def maxWord : Nat := UInt64.size - 1

/-- Appends digits to a number as long as it fits a word, and counts those that were taken. -/
def accumulate (word taken : Nat) : List Char → Nat × Nat
  | [] => (word, taken)
  | c :: rest =>
    let next := 10 * word + digitValue c
    if next ≤ maxWord then accumulate next (taken + 1) rest else (word, taken)

/-- The largest exponent that is taken at its word. -/
def maxExponent : Nat := Nat.pow 2 31 - 1

def naturalOf (digits : List Char) : Nat :=
  digits.foldl (fun n c => 10 * n + digitValue c) 0

/-- The double a numeral stands for.  Digits beyond the first word are read as zeros before the
point and not at all behind it. -/
def Numeral.double (numeral : Numeral) : Option Binary64 :=
  let (leading, taken) := accumulate 0 0 numeral.whole
  let dropped := numeral.whole.length - taken
  let (significand, behind) := accumulate leading 0 (numeral.fraction.getD [])
  let shift : Int := (dropped : Int) - behind
  match numeral.exponent with
  | none => Binary64.ofDecimal numeral.negative significand shift
  | some (negative, digits) =>
    let exponent := naturalOf digits
    if maxExponent < exponent then
      if significand ≠ 0 ∧ negative = false then none
      else some (.finite numeral.negative 0 0)
    else
      Binary64.ofDecimal numeral.negative significand
        (if negative then shift - exponent else shift + exponent)

/-- The number a numeral stands for.  A whole number that fits a word is an integer; a negative
zero is a double. -/
def Numeral.number (numeral : Numeral) : Option Number :=
  let double := numeral.double.map Number.float
  match numeral.fraction, numeral.exponent with
  | none, none =>
    let value := naturalOf numeral.whole
    if numeral.negative then
      if value ≠ 0 ∧ value ≤ Nat.pow 2 63 then some (.integer (-value)) else double
    else if value ≤ maxWord then some (.integer value)
    else double
  | _, _ => double

def unit16 : List Char → Option (Nat × List Char)
  | a :: b :: c :: d :: rest => (Text.hexNumber [a, b, c, d]).map (·, rest)
  | _ => none

def shortEscape : Char → Option Char
  | '"' => some '"'
  | '\\' => some '\\'
  | '/' => some '/'
  | 'b' => some (Char.ofNat 8)
  | 'f' => some (Char.ofNat 12)
  | 'n' => some '\n'
  | 'r' => some '\r'
  | 't' => some '\t'
  | _ => none

def pairedChar (high low : Nat) : Char :=
  Char.ofNat (0x10000 + (high - 0xD800) * 0x400 + (low - 0xDC00))

/-- The rest of a text after its opening quote: the characters, or `none` in their place when a
surrogate has no partner, and what follows the closing quote. -/
def spanText : Nat → List Char → Option (Option (List Char) × List Char)
  | 0, _ => none
  | _ + 1, [] => none
  | fuel + 1, c :: rest =>
    if c = '"' then some (some [], rest)
    else if c = '\\' then
      match rest with
      | 'u' :: rest =>
        match unit16 rest with
        | none => none
        | some (high, rest) =>
          if 0xD800 ≤ high ∧ high < 0xDC00 then
            match rest with
            | '\\' :: 'u' :: after =>
              match unit16 after with
              | some (low, after) =>
                if 0xDC00 ≤ low ∧ low < 0xE000 then
                  (spanText fuel after).map fun (text, tail) =>
                    (text.map (pairedChar high low :: ·), tail)
                else (spanText fuel rest).map fun (_, tail) => (none, tail)
              | none => none
            | _ => (spanText fuel rest).map fun (_, tail) => (none, tail)
          else if 0xDC00 ≤ high ∧ high < 0xE000 then
            (spanText fuel rest).map fun (_, tail) => (none, tail)
          else
            (spanText fuel rest).map fun (text, tail) => (text.map (Char.ofNat high :: ·), tail)
      | e :: rest =>
        match shortEscape e with
        | none => none
        | some c => (spanText fuel rest).map fun (text, tail) => (text.map (c :: ·), tail)
      | [] => none
    else if c.toNat < 32 then none
    else (spanText fuel rest).map fun (text, tail) => (text.map (c :: ·), tail)

def spanQuoted : List Char → Option (Option String × List Char)
  | '"' :: rest =>
    (spanText (rest.length + 1) rest).map fun (text, tail) => (text.map String.ofList, tail)
  | _ => none

def ofMembers (members : List (Option String × Json)) : Json :=
  match members.mapM fun (name, value) => name.map (·, value) with
  | some members => .object members
  | none => .unreadable

mutual

/-- Splits off a document that starts at the first character. -/
def spanValue : Nat → List Char → Option (Json × List Char)
  | 0, _ => none
  | fuel + 1, cs =>
    match cs with
    | 'n' :: 'u' :: 'l' :: 'l' :: rest => some (.null, rest)
    | 't' :: 'r' :: 'u' :: 'e' :: rest => some (.bool true, rest)
    | 'f' :: 'a' :: 'l' :: 's' :: 'e' :: rest => some (.bool false, rest)
    | '"' :: _ =>
      (spanQuoted cs).map fun (text, tail) => (text.elim .unreadable .string, tail)
    | '[' :: rest =>
      match skipBlanks rest with
      | ']' :: rest => some (.array [], rest)
      | rest => (spanElements fuel rest).map fun (elements, tail) => (.array elements, tail)
    | '{' :: rest =>
      match skipBlanks rest with
      | '}' :: rest => some (.object [], rest)
      | rest => (spanMembers fuel rest).map fun (members, tail) => (ofMembers members, tail)
    | cs =>
      (spanNumeral cs).map fun (numeral, tail) => (numeral.number.elim .unreadable .number, tail)

def spanElements : Nat → List Char → Option (List Json × List Char)
  | 0, _ => none
  | fuel + 1, cs =>
    match spanValue fuel cs with
    | none => none
    | some (value, rest) =>
      match skipBlanks rest with
      | ']' :: rest => some ([value], rest)
      | ',' :: rest =>
        (spanElements fuel (skipBlanks rest)).map fun (elements, tail) => (value :: elements, tail)
      | _ => none

def spanMembers : Nat → List Char → Option (List (Option String × Json) × List Char)
  | 0, _ => none
  | fuel + 1, cs =>
    match spanQuoted cs with
    | none => none
    | some (name, rest) =>
      match skipBlanks rest with
      | ':' :: rest =>
        match spanValue fuel (skipBlanks rest) with
        | none => none
        | some (value, rest) =>
          match skipBlanks rest with
          | '}' :: rest => some ([(name, value)], rest)
          | ',' :: rest =>
            (spanMembers fuel (skipBlanks rest)).map fun (members, tail) =>
              ((name, value) :: members, tail)
          | _ => none
      | _ => none

end

def parseChars (cs : List Char) : Option Json :=
  let cs := skipBlanks cs
  match spanValue (cs.length + 1) cs with
  | some (document, rest) => if (skipBlanks rest).isEmpty then some document else none
  | none => none

def parse (text : String) : Option Json :=
  parseChars text.toList

end DecisionPoint.Json
