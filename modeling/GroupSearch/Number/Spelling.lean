import GroupSearch.Number.Arithmetic
import GroupSearch.Text.Numeral

namespace GroupSearch

namespace Double

def spelledDigits (cs : List Char) : List Char × List Char :=
  (cs.takeWhile Char.isDigit, cs.dropWhile Char.isDigit)

def spelledExponent? : List Char → Option Int
  | [] => some 0
  | e :: cs =>
    let (negative, digits) := Text.splitSign cs
    if (e = 'e' ∨ e = 'E') ∧ !digits.isEmpty ∧ digits.all Char.isDigit then
      let n : Nat := Nat.ofDigitChars 10 digits 0
      some (if negative then -n else n)
    else none

def ofSpelledDigits? (negative : Bool) (cs : List Char) : Option Double := do
  let (whole, rest) := spelledDigits cs
  let (part, rest) := match rest with
    | '.' :: rest => spelledDigits rest
    | rest => ([], rest)
  guard !(whole ++ part).isEmpty
  let exponent ← spelledExponent? rest
  return ofDecimal negative (Nat.ofDigitChars 10 (whole ++ part) 0) (exponent - part.length)

def ofText? (s : String) : Option Double :=
  let (negative, cs) := Text.splitSign (Text.numeralChars s)
  let word := String.ofList (cs.map Char.toLower)
  if word = "inf" ∨ word = "infinity" then some (.infinite negative)
  else if word = "nan" then some .undefined
  else ofSpelledDigits? negative cs

end Double

def colonParts (s : String) : List String := s.splitOn ":"

def ofSixtieths (places : List Int) : Int := places.foldl (fun n m ↦ 60 * n + m) 0

/-- The sum of places to base sixty, the lowest first and added up in that order, from a place and
its weight on; nothing if a weight is beyond the range of numbers. -/
def Double.sumSixtieths (sum : Double) (weight : Nat) : List Double → Option Double
  | [] => some sum
  | x :: xs =>
    match Double.ofInt weight with
    | .infinite _ => none
    | w => sumSixtieths (sum.add (x.mul w)) (60 * weight) xs

def Double.ofSixtieths? (places : List Double) : Option Double :=
  sumSixtieths (.ofInt 0) 1 places.reverse

end GroupSearch
