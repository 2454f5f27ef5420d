import GroupSearch.Document.Plain

namespace GroupSearch.Log

open Value

structure Figure where
  /-- Numbers may be filled up with zeros. -/
  numeric : Bool
  sign : List Char
  /-- The mark of a base other than ten. -/
  base : List Char
  body : List Char
  deriving DecidableEq, Repr

namespace Figure

def ofText (precision : Option Nat) (s : String) : Figure where
  numeric := false
  sign := []
  base := []
  body := match precision with
    | none => s.toList
    | some n => s.toList.take n

def ofInt (radix : Nat) (base : List Char) (precision : Option Nat) (n : Int) : Figure where
  numeric := true
  sign := if n < 0 then ['-'] else []
  base
  body :=
    let digits := Nat.toDigits radix n.natAbs
    List.replicate (precision.getD 0 - digits.length) '0' ++ digits

def ofDouble (text : Nat → Int → List Char) (x : Double) : Figure where
  numeric := true
  sign := if x.isNegative then ['-'] else []
  base := []
  body := x.magnitude text

def upper (f : Figure) : Figure :=
  { f with base := f.base.map Char.toUpper, body := f.body.map Char.toUpper }

def signed (mark : Option Char) (f : Figure) : Figure :=
  if f.numeric && f.sign.isEmpty then { f with sign := mark.toList } else f

def filled (left zeros : Bool) (width : Nat) (f : Figure) : List Char :=
  let marks := f.sign ++ f.base
  let gap := width - (marks.length + f.body.length)
  if left then marks ++ f.body ++ List.replicate gap ' '
  else if zeros && f.numeric then marks ++ List.replicate gap '0' ++ f.body
  else List.replicate gap ' ' ++ marks ++ f.body

end Figure

def wholeNumber? : Value → Option Int
  | .bool b => some (if b then 1 else 0)
  | .int n => some n
  | _ => none

def truncated? : Value → Option Int
  | .real x => x.truncate?
  | v => wholeNumber? v

def double? : Value → Option Double
  | .real x => some x
  | v => do
    let x := Double.ofInt (← wholeNumber? v)
    match x with
    | .infinite _ => none
    | x => some x

def character? : Value → Option Char
  | .text s =>
    match s.toList with
    | [c] => some c
    | _ => none
  | v => do
    let n ← wholeNumber? v
    if 0 ≤ n ∧ n.toNat.isValidChar then some (Char.ofNat n.toNat) else none

def defaultPlaces : Nat := 6

/-- The figure of a value for a letter. The alternate form marks bases, and keeps points and zeros
that would be dropped. -/
def convert (alternate : Bool) (precision : Option Nat) (letter : Char) (v : Value) :
    Option Figure :=
  let places := precision.getD defaultPlaces
  let base := fun mark : Char ↦ if alternate then ['0', mark] else []
  match letter with
  | 's' => some (.ofText precision v.plain)
  | 'r' => some (.ofText precision v.quoted)
  | 'a' => some (.ofText precision (String.ofList (Text.asciiChars v.quoted.toList)))
  | 'c' => (character? v).map fun c ↦ .ofText none c.toString
  | 'd' | 'i' | 'u' => (truncated? v).map (.ofInt 10 [] precision)
  | 'o' => (wholeNumber? v).map (.ofInt 8 (base 'o') precision)
  | 'x' => (wholeNumber? v).map (.ofInt 16 (base 'x') precision)
  | 'X' => (wholeNumber? v).map fun n ↦ (Figure.ofInt 16 (base 'x') precision n).upper
  | 'e' => (double? v).map (.ofDouble (Double.scientific alternate places))
  | 'E' => (double? v).map fun x ↦ (Figure.ofDouble (Double.scientific alternate places) x).upper
  | 'f' => (double? v).map (.ofDouble (Double.fixed alternate places))
  | 'F' => (double? v).map fun x ↦ (Figure.ofDouble (Double.fixed alternate places) x).upper
  | 'g' => (double? v).map (.ofDouble (Double.general alternate places))
  | 'G' => (double? v).map fun x ↦ (Figure.ofDouble (Double.general alternate places) x).upper
  | _ => none

end GroupSearch.Log
