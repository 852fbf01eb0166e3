/-!
# Double precision numbers, exactly

A finite double is a sign and a magnitude `mantissa * 2 ^ exponent`.  All arithmetic here is on
natural numbers: a quotient is rounded once to the nearest double, a tie going to the even
mantissa.
-/

set_option autoImplicit false

namespace DecisionPoint

/-- A double precision number. -/
inductive Binary64 where
  | finite (negative : Bool) (mantissa : Nat) (exponent : Int)
  | infinite (negative : Bool)
  | nan
deriving DecidableEq, Repr, Inhabited

namespace Binary64

def minExponent : Int := -1074

/-- The largest exponent a finite double with a full mantissa can have. -/
def maxExponent : Int := 971

/-- The mantissa of a normal number lies between this and its double. -/
def hiddenBit : Nat := Nat.pow 2 52

/-- `num / den * 2 ^ (-shift)` as a quotient of naturals. -/
def scaled (num den : Nat) (shift : Int) : Nat × Nat :=
  if 0 ≤ shift then (num, den * Nat.pow 2 shift.toNat) else (num * Nat.pow 2 (-shift).toNat, den)

/-- The exponent at which the quotient has a mantissa of 53 bits, or the smallest one. -/
def exponentOf (num den : Nat) : Int :=
  let guess : Int := (num.log2 : Int) - (den.log2 : Int) - 53
  let (top, bottom) := scaled num den (guess + 1)
  max minExponent (if hiddenBit ≤ top / bottom then guess + 1 else guess)

/-- The natural number nearest to a quotient; a tie goes to the even one. -/
def roundQuotient (num den : Nat) : Nat :=
  let q := num / den
  let r := num % den
  if 2 * r < den then q
  else if den < 2 * r then q + 1
  else if q % 2 = 0 then q else q + 1

/-- The double nearest to a quotient of naturals. -/
def ofQuotient (negative : Bool) (num den : Nat) : Binary64 :=
  if num = 0 then finite negative 0 0
  else
    let e := exponentOf num den
    let (top, bottom) := scaled num den e
    let m := roundQuotient top bottom
    if m = 0 then finite negative 0 0
    else if m < 2 * hiddenBit then
      if maxExponent < e then infinite negative else finite negative m e
    else
      if maxExponent < e + 1 then infinite negative else finite negative hiddenBit (e + 1)

def ofNat (n : Nat) : Binary64 :=
  ofQuotient false n 1

def quotient (mantissa : Nat) (exponent : Int) : Nat × Nat :=
  if 0 ≤ exponent then (mantissa * Nat.pow 2 exponent.toNat, 1)
  else (mantissa, Nat.pow 2 (-exponent).toNat)

def times (a b : Nat × Nat) : Binary64 :=
  ofQuotient false (a.1 * b.1) (a.2 * b.2)

def divided (a b : Nat × Nat) : Binary64 :=
  ofQuotient false (a.1 * b.2) (a.2 * b.1)

def powerOfTen (n : Nat) : Nat × Nat :=
  match ofNat (Nat.pow 10 n) with
  | finite _ m e => quotient m e
  | _ => (1, 1)

def withSign (negative : Bool) : Binary64 → Binary64
  | finite _ m e => finite negative m e
  | infinite _ => infinite negative
  | nan => nan

/-- The largest power of ten that a double can come near to. -/
def tenLimit : Nat := 308

/-- A decimal is read in two roundings: first its digits, then the scaling by a power of ten.
There is no answer for a decimal beyond the largest double. -/
def ofDecimal (negative : Bool) (digits : Nat) (exponent : Int) : Option Binary64 :=
  scale (ofNat digits) exponent
where
  scale (f : Binary64) (exponent : Int) : Option Binary64 :=
    match f with
    | finite _ m e =>
      if exponent.natAbs ≤ tenLimit then
        let p := powerOfTen exponent.natAbs
        match if 0 ≤ exponent then times (quotient m e) p else divided (quotient m e) p with
        | infinite _ => none
        | g => some (withSign negative g)
      else if m = 0 then some (finite negative 0 0)
      else if 0 ≤ exponent then none
      else scale (divided (quotient m e) (powerOfTen tenLimit)) (exponent + tenLimit)
    | _ => none
  termination_by exponent.natAbs
  decreasing_by simp only [tenLimit] at *; omega

end Binary64

end DecisionPoint
