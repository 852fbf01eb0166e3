import DecisionPoint.Json.Reader
import DecisionPoint.Text.Blank
import DecisionPoint.Time.Calendar

/-!
# Instants and their RFC 3339 text

An instant is written with as many places of its second as it needs: none, three, six or nine.
The reader is more generous than the writer: it takes blanks between the parts, months, days and
times of one digit, a blank for the `T`, and any offset.
-/

set_option autoImplicit false

namespace DecisionPoint

/-- A point in time: seconds since 1970 and nanoseconds.  A second of leap time continues the
nanoseconds of the second before it. -/
structure Instant where
  seconds : Int
  nanos : Nat
deriving DecidableEq, Repr, Inhabited

namespace Instant

def epoch : Instant := ⟨0, 0⟩

def ofMillis (millis : Nat) : Instant :=
  ⟨(millis / 1000 : Nat), millis % 1000 * 1000000⟩

def toMillis (instant : Instant) : Int :=
  instant.seconds * 1000 + (instant.nanos / 1000000 : Nat)

/-! ## Writing -/

def padded (width n : Nat) : List Char :=
  let digits := Nat.toDigits 10 n
  List.replicate (width - digits.length) '0' ++ digits

/-- A year: four digits, with a sign outside the first ten thousand years. -/
def yearChars (year : Int) : List Char :=
  if 0 ≤ year ∧ year ≤ 9999 then padded 4 year.toNat
  else (if year < 0 then '-' else '+') :: padded 4 year.natAbs

def fractionChars (nanos : Nat) : List Char :=
  if nanos = 0 then []
  else if nanos % 1000000 = 0 then '.' :: padded 3 (nanos / 1000000)
  else if nanos % 1000 = 0 then '.' :: padded 6 (nanos / 1000)
  else '.' :: padded 9 nanos

inductive Zone where
  | zulu
  | offset

def chars (zone : Zone) (instant : Instant) : List Char :=
  let date := Date.ofDays (instant.seconds.fdiv 86400)
  let time := (instant.seconds.fmod 86400).toNat
  let leap := 1000000000 ≤ instant.nanos
  let second := if leap then time % 60 + 1 else time % 60
  let nanos := if leap then instant.nanos - 1000000000 else instant.nanos
  yearChars date.year ++ '-' :: padded 2 date.month ++ '-' :: padded 2 date.day ++
    'T' :: padded 2 (time / 3600) ++ ':' :: padded 2 (time / 60 % 60) ++
    ':' :: padded 2 second ++ fractionChars nanos ++
    match zone with
    | .zulu => ['Z']
    | .offset => ['+', '0', '0', ':', '0', '0']

def text (zone : Zone) (instant : Instant) : String :=
  String.ofList (instant.chars zone)

def toJson (instant : Instant) : Json :=
  .string (instant.text .zulu)

/-! ## Reading -/

def numberOf (digits : List Char) : Nat :=
  digits.foldl (fun n c => 10 * n + (c.toNat - 48)) 0

def spanNumber (most : Nat) (cs : List Char) : Option (Nat × List Char) :=
  let digits := (cs.takeWhile Char.isDigit).take most
  if digits.isEmpty then none else some (numberOf digits, cs.drop digits.length)

def spanYear (cs : List Char) : Option (Int × List Char) :=
  match cs with
  | '-' :: rest => (spanNumber rest.length rest).map fun (n, rest) => (-(n : Int), rest)
  | '+' :: rest => (spanNumber rest.length rest).map fun (n, rest) => ((n : Int), rest)
  | cs => (spanNumber 4 cs).map fun (n, rest) => ((n : Int), rest)

def spanMark (mark : Char) (cs : List Char) : Option (List Char) :=
  match Text.trimStart cs with
  | c :: rest => if c = mark then some rest else none
  | [] => none

/-- Splits off two digits at most, with blanks before them. -/
def spanPair (cs : List Char) : Option (Nat × List Char) :=
  spanNumber 2 (Text.trimStart cs)

def spanDate (cs : List Char) : Option (Date × List Char) := do
  let (year, cs) ← spanYear (Text.trimStart cs)
  let cs ← spanMark '-' cs
  let (month, cs) ← spanPair cs
  let cs ← spanMark '-' cs
  let (day, cs) ← spanPair cs
  pure (⟨year, month, day⟩, cs)

/-- Splits off the places of a second; what goes beyond nanoseconds is dropped. -/
def spanFraction (cs : List Char) : Option (Nat × List Char) :=
  match cs with
  | '.' :: rest =>
    let digits := rest.takeWhile Char.isDigit
    if digits.isEmpty then none
    else
      let kept := digits.take 9
      some (numberOf kept * Nat.pow 10 (9 - kept.length), rest.dropWhile Char.isDigit)
  | cs => some (0, cs)

/-- Splits off an offset from universal time, in seconds. -/
def spanOffset (cs : List Char) : Option (Int × List Char) :=
  match cs with
  | 'Z' :: rest | 'z' :: rest => some (0, rest)
  | u :: t :: c :: rest =>
    if u.toLower = 'u' && t.toLower = 't' && c.toLower = 'c' then some (0, rest)
    else if u = '+' || u = '-' || u = '−' then do
      if !(t.isDigit && c.isDigit) then none
      let hours := numberOf [t, c]
      match rest.dropWhile fun c => c = ':' || Text.isBlank c with
      | a :: b :: rest =>
        if !(a.isDigit && b.isDigit) then none
        let minutes := numberOf [a, b]
        if 60 ≤ minutes then none
        let seconds : Int := hours * 3600 + minutes * 60
        some (if u = '+' then seconds else -seconds, rest)
      | _ => none
    else none
  | _ => none

def inRange (year : Int) : Bool :=
  -262143 ≤ year && year ≤ 262142

def ofParts (date : Date) (hour minute second nanos : Nat) (offset : Int) : Option Instant :=
  if date.isValid && inRange date.year && hour < 24 && minute < 60 && second ≤ 60 &&
      -86400 < offset && offset < 86400 then
    let plain := if second = 60 then 59 else second
    let seconds : Int := date.toDays * 86400 + (hour * 3600 + minute * 60 + plain : Nat) - offset
    let instant : Instant := ⟨seconds, if second = 60 then nanos + 1000000000 else nanos⟩
    if inRange (Date.ofDays (seconds.fdiv 86400)).year then some instant else none
  else none

def parseChars (cs : List Char) : Option Instant := do
  let (date, cs) ← spanDate cs
  match cs with
  | c :: cs =>
    if !(c = 'T' || c = 't' || c = ' ') then none
    let (hour, cs) ← spanPair cs
    let cs ← spanMark ':' cs
    let (minute, cs) ← spanPair cs
    let cs ← spanMark ':' cs
    let (second, cs) ← spanPair cs
    let (nanos, cs) ← spanFraction cs
    let (offset, cs) ← spanOffset (Text.trimStart cs)
    if (Text.trimStart cs).isEmpty then ofParts date hour minute second nanos offset else none
  | [] => none

def parse (text : String) : Option Instant :=
  parseChars text.toList

def read (dialect : Json.Dialect) : Json.Reader Instant
  | .string value =>
    match parse value with
    | some instant => .ok instant
    | none => .error .invalidTimestamp
  | found =>
    .error (Json.wrongType dialect found "an RFC 3339 formatted date and time string")

end Instant

end DecisionPoint
