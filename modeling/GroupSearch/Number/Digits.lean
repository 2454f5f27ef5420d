import GroupSearch.Number.Double

-- Powers are those of the core library, whatever other instances are around.
attribute [local instance (2000)] instPowNat

namespace GroupSearch

structure DecimalValue where
  digits : Nat
  exponent : Int
  deriving DecidableEq, Repr

def leadingPlace (num den : Nat) : Int :=
  if den ≤ num then (Nat.toDigits 10 (num / den)).length
  else
    let n := (Nat.toDigits 10 (den / num)).length
    if den = num * 10 ^ (n - 1) then 2 - n else 1 - n

def inUnits (num den : Nat) (exponent : Int) : Nat × Nat :=
  (num * 10 ^ (-exponent).toNat, den * 10 ^ exponent.toNat)

def significantDigits (count num den : Nat) : DecimalValue :=
  let exponent := leadingPlace num den - count
  let units := inUnits num den exponent
  let digits := roundQuotient units.1 units.2
  if digits = 10 ^ count then ⟨10 ^ (count - 1), exponent + 1⟩ else ⟨digits, exponent⟩

namespace Double

def readsBack (mantissa : Nat) (exponent : Int) (v : DecimalValue) : Bool :=
  ofDecimal false v.digits v.exponent == finite false mantissa exponent

/-- The multiples of `10 ^ unit` below and above a number are tried; of two that read back the
nearer one is taken, of two equally near ones the even one. -/
def neighbour? (mantissa : Nat) (exponent unit : Int) : Option DecimalValue :=
  let value := fraction mantissa exponent
  let units := inUnits value.1 value.2 unit
  let below : DecimalValue := ⟨units.1 / units.2, unit⟩
  let above : DecimalValue := ⟨units.1 / units.2 + 1, unit⟩
  if readsBack mantissa exponent below then
    if readsBack mantissa exponent above && roundQuotient units.1 units.2 != below.digits then
      some above
    else some below
  else if readsBack mantissa exponent above then some above
  else none

/-- The fewest digits that read back as a positive number, up to seventeen. -/
def shortest (mantissa : Nat) (exponent : Int) : DecimalValue :=
  let (num, den) := fraction mantissa exponent
  let place := leadingPlace num den
  ((List.range 17).findSome? fun n ↦ neighbour? mantissa exponent (place - (n + 1 : Nat))).getD
    (significantDigits 17 num den)

end Double

end GroupSearch
