import GroupSearch.Number.Digits

-- Powers are those of the core library, whatever other instances are around.
attribute [local instance (2000)] instPowNat

namespace GroupSearch

def splitAtPlace (digits : List Char) (place : Int) : List Char × List Char :=
  if place ≤ 0 then (['0'], List.replicate (-place).toNat '0' ++ digits)
  else
    (digits.take place.toNat ++ List.replicate (place.toNat - digits.length) '0',
      digits.drop place.toNat)

def withPoint (point : Bool) (parts : List Char × List Char) : List Char :=
  if parts.2.isEmpty && !point then parts.1 else parts.1 ++ '.' :: parts.2

def dropZeros (digits : List Char) : List Char :=
  (digits.reverse.dropWhile (· == '0')).reverse

def exponentMark (exponent : Int) : List Char :=
  let digits := Nat.toDigits 10 exponent.natAbs
  'e' :: (if exponent < 0 then '-' else '+') :: (List.replicate (2 - digits.length) '0' ++ digits)

def withExponent (point : Bool) (digits : List Char) (place : Int) : List Char :=
  withPoint point (digits.take 1, digits.drop 1) ++ exponentMark (place - 1)

namespace DecimalValue

def chars (v : DecimalValue) : List Char := Nat.toDigits 10 v.digits

def place (v : DecimalValue) : Int := v.chars.length + v.exponent

end DecimalValue

namespace Double

def rounded (count mantissa : Nat) (exponent : Int) : List Char × Int :=
  if mantissa = 0 then (List.replicate count '0', 1)
  else
    let (num, den) := fraction mantissa exponent
    let v := significantDigits count num den
    (v.chars, v.place)

def fixed (point : Bool) (places mantissa : Nat) (exponent : Int) : List Char :=
  let (num, den) := fraction mantissa exponent
  let v : DecimalValue := ⟨roundQuotient (num * 10 ^ places) den, -places⟩
  withPoint point (splitAtPlace v.chars v.place)

def scientific (point : Bool) (places mantissa : Nat) (exponent : Int) : List Char :=
  let (digits, place) := rounded (places + 1) mantissa exponent
  withExponent point digits place

/-- With a given number of digits in all, and with an exponent where the number is below a
ten-thousandth or has more digits in front of the point. Zeros at the end are dropped unless the
point is asked for. -/
def general (point : Bool) (precision mantissa : Nat) (exponent : Int) : List Char :=
  let count := max precision 1
  let (digits, place) := rounded count mantissa exponent
  if place ≤ -4 ∨ place > count then
    withExponent point (if point then digits else digits.take 1 ++ dropZeros (digits.drop 1)) place
  else
    let (whole, part) := splitAtPlace digits place
    withPoint point (whole, if point then part else dropZeros part)

def shortestText (mantissa : Nat) (exponent : Int) : List Char :=
  if mantissa = 0 then ['0', '.', '0']
  else
    let v := shortest mantissa exponent
    let digits := dropZeros v.chars
    if v.place ≤ -4 ∨ v.place > 16 then withExponent false digits v.place
    else
      let (whole, part) := splitAtPlace digits v.place
      withPoint true (whole, if part.isEmpty then ['0'] else part)

def magnitude (finiteText : Nat → Int → List Char) : Double → List Char
  | finite _ mantissa exponent => finiteText mantissa exponent
  | infinite _ => ['i', 'n', 'f']
  | undefined => ['n', 'a', 'n']

def toText (x : Double) : String :=
  String.ofList ((if x.isNegative then ['-'] else []) ++ x.magnitude shortestText)

end Double

end GroupSearch
