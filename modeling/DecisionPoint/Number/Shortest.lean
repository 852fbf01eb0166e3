import DecisionPoint.Number.Binary64

/-!
# The shortest decimal that reads back

`Binary64.shortest` gives the fewest digits whose decimal rounds to a given double, the nearest
such digits when several would do.  `ShortestFormat` holds what is left to choose: which of two
equally near decimals is taken, where positional writing ends and how an exponent is spelt.
-/

set_option autoImplicit false

namespace DecisionPoint

/-- `digits * 10 ^ exponent`. -/
structure Decimal where
  digits : Nat
  exponent : Int
deriving DecidableEq, Repr

/-- Which of two neighbouring decimals is taken when a number lies half-way between them. -/
inductive HalfWay where
  | toEven
  | up
deriving DecidableEq, Repr

namespace Binary64

/-- The number of decimal digits before the point of a positive quotient; zero or less when it is
below one. -/
def decimalPoint (num den : Nat) : Int :=
  if den ≤ num then
    ((Nat.toDigits 10 (num / den)).length : Int)
  else
    1 - ((Nat.toDigits 10 ((den - 1) / num)).length : Int)

/-- Whether a decimal lies among the reals that round to `mantissa * 2 ^ exponent`.  The ends
belong to it when the mantissa is even; below a power of two the lower half is half as wide. -/
def roundsTo (mantissa : Nat) (exponent : Int) (candidate : Decimal) : Bool :=
  let (num, den) := quotient mantissa exponent
  let (unit, unitDen) := quotient 1 exponent
  let (top, bottom) :=
    if 0 ≤ candidate.exponent then (candidate.digits * Nat.pow 10 candidate.exponent.toNat, 1)
    else (candidate.digits, Nat.pow 10 (-candidate.exponent).toNat)
  let left := top * den
  let right := num * bottom
  let gap := if left ≤ right then right - left else left - right
  let narrow := left < right && mantissa = hiddenBit && minExponent < exponent
  let reach := if narrow then 4 else 2
  let lhs := reach * gap * unitDen
  let rhs := unit * den * bottom
  lhs < rhs || (lhs = rhs && mantissa % 2 = 0)

/-- The two decimals with one more than `places` digits cut off on either side of a quotient. -/
def neighbours (num den : Nat) (exponent : Int) : Decimal × Decimal :=
  let low :=
    if 0 ≤ exponent then num / (den * Nat.pow 10 exponent.toNat)
    else num * Nat.pow 10 (-exponent).toNat / den
  (⟨low, exponent⟩, ⟨low + 1, exponent⟩)

def lowerIsNearer (halfWay : HalfWay) (num den : Nat) (low : Decimal) : Bool :=
  let (top, bottom) :=
    if 0 ≤ low.exponent then (Nat.pow 10 low.exponent.toNat, 1)
    else (1, Nat.pow 10 (-low.exponent).toNat)
  -- twice the quotient against the sum of the two neighbours
  let left := 2 * num * bottom
  let right := (2 * low.digits + 1) * top * den
  left < right || (left = right && halfWay = .toEven && low.digits % 2 = 0)

def shortestFrom (halfWay : HalfWay) (mantissa : Nat) (exponent : Int) (num den : Nat)
    (point : Int) : Nat → Nat → Decimal
  | 0, count => (neighbours num den (point - count)).1
  | tries + 1, count =>
    let (low, high) := neighbours num den (point - count)
    match roundsTo mantissa exponent low, roundsTo mantissa exponent high with
    | true, true => if lowerIsNearer halfWay num den low then low else high
    | true, false => low
    | false, true => high
    | false, false => shortestFrom halfWay mantissa exponent num den point tries (count + 1)

def stripZeros : Nat → Decimal → Decimal
  | 0, d => d
  | fuel + 1, d =>
    if d.digits ≠ 0 ∧ d.digits % 10 = 0 then stripZeros fuel ⟨d.digits / 10, d.exponent + 1⟩ else d

/-- The fewest digits that read back as `mantissa * 2 ^ exponent`. -/
def shortest (halfWay : HalfWay) (mantissa : Nat) (exponent : Int) : Decimal :=
  if mantissa = 0 then ⟨0, 0⟩
  else
    let (num, den) := quotient mantissa exponent
    stripZeros 20 (shortestFrom halfWay mantissa exponent num den (decimalPoint num den) 17 1)

end Binary64

structure ShortestFormat where
  halfWay : HalfWay
  /-- The smallest and largest position of the point that is written without an exponent. -/
  leastPoint : Option Int
  greatestPoint : Option Int
  nan : String
  infinity : String

namespace ShortestFormat

/-- Numbers in JSON documents: positional from `0.00001` to sixteen digits before the point. -/
def compact : ShortestFormat := ⟨.toEven, some (-4), some 16, "NaN", "inf"⟩

/-- Numbers in messages about configuration documents: always positional. -/
def positional : ShortestFormat := ⟨.up, none, none, "NaN", "inf"⟩

/-- Digits with a point after `point` of them; there is always a digit on each side. -/
def place (digits : List Char) (point : Int) : List Char :=
  if point ≤ 0 then '0' :: '.' :: (List.replicate (-point).toNat '0' ++ digits)
  else if (digits.length : Int) ≤ point then
    digits ++ List.replicate (point - digits.length).toNat '0' ++ ['.', '0']
  else digits.take point.toNat ++ '.' :: digits.drop point.toNat

def signed (exponent : Int) : List Char :=
  (if exponent < 0 then '-' else '+') :: Nat.toDigits 10 exponent.natAbs

def scientific (digits : List Char) (point : Int) : List Char :=
  let exponent := signed (point - 1)
  match digits with
  | [] => []
  | [d] => d :: 'e' :: exponent
  | d :: rest => d :: '.' :: rest ++ 'e' :: exponent

def render (format : ShortestFormat) : Binary64 → List Char
  | .nan => format.nan.toList
  | .infinite negative => (if negative then ['-'] else []) ++ format.infinity.toList
  | .finite negative mantissa exponent =>
    let sign := if negative then ['-'] else []
    if mantissa = 0 then sign ++ ['0', '.', '0']
    else
      let d := Binary64.shortest format.halfWay mantissa exponent
      let digits := Nat.toDigits 10 d.digits
      let point : Int := digits.length + d.exponent
      let written :=
        if format.leastPoint.all (· ≤ point) && format.greatestPoint.all (point ≤ ·) then
          place digits point
        else scientific digits point
      sign ++ written

end ShortestFormat

end DecisionPoint
