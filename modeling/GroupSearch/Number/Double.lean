-- Powers are those of the core library, whatever other instances are around.
attribute [local instance (2000)] instPowNat

namespace GroupSearch

def roundQuotient (num den : Nat) : Nat :=
  let q := num / den
  if 2 * (num % den) < den ∨ (2 * (num % den) = den ∧ q % 2 = 0) then q else q + 1

inductive Double
  /-- The value `mantissa * 2 ^ exponent`, or its negative. -/
  | finite (negative : Bool) (mantissa : Nat) (exponent : Int)
  | infinite (negative : Bool)
  | undefined
  deriving DecidableEq, Repr, Inhabited

namespace Double

/-- The least exponent. Numbers with it may have any mantissa below `2 ^ 53`, and others have the
highest of the 53 bits set. -/
def leastExponent : Int := -1074

def greatestExponent : Int := 971

def exceeds (num den : Nat) (exponent : Int) : Bool :=
  den * 2 ^ exponent.toNat * 2 ^ (53 : Nat) ≤ num * 2 ^ (-exponent).toNat

/-- The number nearest to a fraction; fractions beyond the range become infinite. -/
def ofFraction (negative : Bool) (num den : Nat) : Double :=
  if num = 0 then .finite negative 0 leastExponent
  else
    let low := max leastExponent (num.log2 - den.log2 - 53)
    let exponent := if exceeds num den low then low + 1 else low
    let mantissa :=
      roundQuotient (num * 2 ^ (-exponent).toNat) (den * 2 ^ exponent.toNat)
    let (mantissa, exponent) :=
      if mantissa = 2 ^ (53 : Nat) then (2 ^ (52 : Nat), exponent + 1) else (mantissa, exponent)
    if exponent > greatestExponent then .infinite negative else .finite negative mantissa exponent

/-- The number nearest to `digits * 10 ^ exponent`. Exponents far out of the range are not
computed with. -/
def ofDecimal (negative : Bool) (digits : Nat) (exponent : Int) : Double :=
  let places := exponent + (Nat.toDigits 10 digits).length
  if digits = 0 ∨ places < -330 then ofFraction negative 0 1
  else if places > 310 then .infinite negative
  else ofFraction negative (digits * 10 ^ exponent.toNat) (10 ^ (-exponent).toNat)

def ofInt (n : Int) : Double := ofFraction (n < 0) n.natAbs 1

def isZero : Double → Bool
  | finite _ mantissa _ => mantissa == 0
  | _ => false

def isNegative : Double → Bool
  | finite negative _ _ | infinite negative => negative
  | undefined => false

def fraction (mantissa : Nat) (exponent : Int) : Nat × Nat :=
  (mantissa * 2 ^ exponent.toNat, 2 ^ (-exponent).toNat)

def truncate? : Double → Option Int
  | finite negative mantissa exponent =>
    let (num, den) := fraction mantissa exponent
    some (if negative then -(num / den : Nat) else (num / den : Nat))
  | _ => none

def whole? : Double → Option Int
  | finite negative mantissa exponent =>
    let (num, den) := fraction mantissa exponent
    if num % den = 0 then (finite negative mantissa exponent).truncate? else none
  | _ => none

end Double

end GroupSearch
