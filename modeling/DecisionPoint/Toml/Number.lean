import DecisionPoint.Json.Basic
import DecisionPoint.Json.Parser
import DecisionPoint.Time.Calendar

/-!
# Numbers and times in TOML

Digits may be grouped by underscores.  Whole numbers fit a signed 64-bit word and may be written in
the bases two, eight and sixteen.  Other numbers are the nearest doubles.  A time is kept as it is
written.
-/

set_option autoImplicit false

namespace DecisionPoint.Toml

/-- Digits that follow a first one; an underscore stands between two of them. -/
def spanMoreDigits (isDigit : Char → Bool) : List Char → List Char × List Char
  | '_' :: c :: rest =>
    if isDigit c then
      let (digits, tail) := spanMoreDigits isDigit rest
      (c :: digits, tail)
    else ([], '_' :: c :: rest)
  | c :: rest =>
    if isDigit c then
      let (digits, tail) := spanMoreDigits isDigit rest
      (c :: digits, tail)
    else ([], c :: rest)
  | [] => ([], [])

def spanGrouped (isDigit : Char → Bool) : List Char → Option (List Char × List Char)
  | c :: rest =>
    if isDigit c then
      let (digits, tail) := spanMoreDigits isDigit rest
      some (c :: digits, tail)
    else none
  | [] => none

def spanSign : List Char → Bool × List Char
  | '-' :: rest => (true, rest)
  | '+' :: rest => (false, rest)
  | cs => (false, cs)

def spanWhole : List Char → Option (List Char × List Char)
  | '0' :: rest => some (['0'], rest)
  | cs => spanGrouped Char.isDigit cs

/-- A whole number that fits a signed 64-bit word. -/
def signed (negative : Bool) (magnitude : Nat) : Option Json :=
  let value : Int := if negative then -(magnitude : Int) else magnitude
  if Int64.minValue.toInt ≤ value ∧ value ≤ Int64.maxValue.toInt then some (Json.int value)
  else none

def digitOf (c : Char) : Nat :=
  (Text.hexValue c).getD 0

def numberOf (base : Nat) (digits : List Char) : Nat :=
  digits.foldl (fun n c => base * n + digitOf c) 0

def isDigitIn (base : Nat) (c : Char) : Bool :=
  (Text.hexValue c).any (· < base)

def spanBased (base : Nat) (cs : List Char) : Option (Json × List Char) :=
  match spanGrouped (isDigitIn base) cs with
  | none => none
  | some (digits, rest) => (signed false (numberOf base digits)).map (·, rest)

def spanInteger (cs : List Char) : Option (Json × List Char) :=
  match cs with
  | '0' :: 'x' :: rest => spanBased 16 rest
  | '0' :: 'o' :: rest => spanBased 8 rest
  | '0' :: 'b' :: rest => spanBased 2 rest
  | _ =>
    let (negative, rest) := spanSign cs
    match spanWhole rest with
    | none => none
    | some (digits, rest) => (signed negative (numberOf 10 digits)).map (·, rest)

/-- Powers of ten beyond this bring any digits out of the range of doubles. -/
def powerLimit (digits : Nat) : Nat := 400 + (Nat.toDigits 10 digits).length

def nearest (negative : Bool) (digits : Nat) (exponent : Int) : Binary64 :=
  if digits = 0 then .finite negative 0 0
  else if powerLimit digits < exponent.natAbs then
    if 0 ≤ exponent then .infinite negative else .finite negative 0 0
  else if 0 ≤ exponent then .ofQuotient negative (digits * Nat.pow 10 exponent.toNat) 1
  else .ofQuotient negative digits (Nat.pow 10 (-exponent).toNat)

def spanFraction : List Char → Option (List Char × List Char)
  | '.' :: rest => spanGrouped Char.isDigit rest
  | _ => none

def spanExponent : List Char → Option (Int × List Char)
  | c :: rest =>
    if c = 'e' || c = 'E' then
      let (negative, rest) := spanSign rest
      (spanGrouped Char.isDigit rest).map fun (digits, tail) =>
        let magnitude : Int := numberOf 10 digits
        (if negative then -magnitude else magnitude, tail)
    else none
  | [] => none

/-- A double in digits, with a fraction or an exponent.  One beyond the largest is refused, unless
it is negative. -/
def spanDecimal (cs : List Char) : Option (Json × List Char) := do
  let (negative, rest) := spanSign cs
  let (whole, rest) ← spanWhole rest
  let (fraction, exponent, rest) ←
    match spanFraction rest with
    | some (fraction, rest) =>
      match spanExponent rest with
      | some (exponent, rest) => some (fraction, exponent, rest)
      | none => some (fraction, 0, rest)
    | none => (spanExponent rest).map fun (exponent, rest) => ([], exponent, rest)
  let value := nearest negative (numberOf 10 (whole ++ fraction)) (exponent - fraction.length)
  if value = .infinite false then none else some (.number (.float value), rest)

def spanNamed (cs : List Char) : Option (Json × List Char) :=
  let (negative, rest) := spanSign cs
  match rest with
  | 'i' :: 'n' :: 'f' :: rest => some (.number (.float (.infinite negative)), rest)
  | 'n' :: 'a' :: 'n' :: rest => some (.number (.float .nan), rest)
  | _ => none

/-! ## Times -/

def spanFixed (count least greatest : Nat) (cs : List Char) : Option (Nat × List Char) :=
  let digits := cs.take count
  if digits.length = count && digits.all Char.isDigit then
    let value := numberOf 10 digits
    if least ≤ value ∧ value ≤ greatest then some (value, cs.drop count) else none
  else none

def spanMark (mark : Char) : List Char → Option (List Char)
  | c :: rest => if c = mark then some rest else none
  | [] => none

def spanDate (cs : List Char) : Option (List Char) := do
  let (year, rest) ← spanFixed 4 0 9999 cs
  let rest ← spanMark '-' rest
  let (month, rest) ← spanFixed 2 1 12 rest
  let rest ← spanMark '-' rest
  let (_, rest) ← spanFixed 2 1 (Date.daysInMonth year month) rest
  some rest

def skipSecondParts (cs : List Char) : List Char :=
  match cs with
  | '.' :: c :: rest => if c.isDigit then rest.dropWhile Char.isDigit else cs
  | _ => cs

/-- A time of day; a second may be the sixty-first of its minute. -/
def spanTime (cs : List Char) : Option (List Char) := do
  let (_, rest) ← spanFixed 2 0 23 cs
  let rest ← spanMark ':' rest
  let (_, rest) ← spanFixed 2 0 59 rest
  let rest ← spanMark ':' rest
  let (_, rest) ← spanFixed 2 0 60 rest
  some (skipSecondParts rest)

def spanOffset : List Char → Option (List Char)
  | c :: rest =>
    if c = 'Z' || c = 'z' then some rest
    else if c = '+' || c = '-' then do
      let (_, rest) ← spanFixed 2 0 23 rest
      let rest ← spanMark ':' rest
      let (_, rest) ← spanFixed 2 0 59 rest
      some rest
    else none
  | [] => none

def spanTimeAfterDate (cs : List Char) : Option (List Char) :=
  match cs with
  | c :: rest =>
    if c = 'T' || c = 't' || c = ' ' then
      (spanTime rest).map fun rest => (spanOffset rest).getD rest
    else none
  | [] => none

def skipMoment (cs : List Char) : Option (List Char) :=
  match spanDate cs with
  | some rest => some ((spanTimeAfterDate rest).getD rest)
  | none => spanTime cs

/-- The member under which a time stands in a document.  Readers never need what it holds. -/
def momentMember : String := "$__toml_private_datetime"

def spanMoment (cs : List Char) : Option (Json × List Char) :=
  (skipMoment cs).map fun rest =>
    (.object [(momentMember, .unreadable)], rest)

def spanQuantity (cs : List Char) : Option (Json × List Char) :=
  (((spanMoment cs).or (spanDecimal cs)).or (spanNamed cs)).or (spanInteger cs)

end DecisionPoint.Toml
