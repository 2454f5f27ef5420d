import GroupSearch.Document.Yaml.Tag
import GroupSearch.Document.Yaml.Timestamp

namespace GroupSearch.Yaml

def nullWords : List String := ["", "~", "null", "Null", "NULL"]

def boolWords : List String :=
  ["yes", "Yes", "YES", "true", "True", "TRUE", "on", "On", "ON", "no", "No", "NO", "false",
    "False", "FALSE", "off", "Off", "OFF"]

def isDigitOrGap (c : Char) : Bool := c.isDigit || c == '_'

def dropSign : List Char → List Char
  | '+' :: cs | '-' :: cs => cs
  | cs => cs

def behindDigits : List Char → Option (List Char)
  | c :: cs => if c.isDigit then some (cs.dropWhile isDigitOrGap) else none
  | [] => none

def behindSixtieth : List Char → Option (List Char)
  | ':' :: a :: b :: cs =>
    if a.isDigit ∧ a < '6' ∧ b.isDigit then some cs
    else if a.isDigit then some (b :: cs)
    else none
  | [':', a] => if a.isDigit then some [] else none
  | _ => none

theorem length_behindSixtieth {cs rest : List Char} (h : behindSixtieth cs = some rest) :
    rest.length < cs.length := by
  unfold behindSixtieth at h
  split at h
  · split at h
    · cases h; simp; omega
    · split at h <;> cases h
      simp
  · split at h <;> cases h
    simp
  · cases h

def behindSixtieths (cs : List Char) : List Char :=
  match _h : behindSixtieth cs with
  | some rest => behindSixtieths rest
  | none => cs
termination_by cs.length
decreasing_by exact length_behindSixtieth ‹_›

def isBinary (c : Char) : Bool := c == '0' || c == '1' || c == '_'

def isOctal (c : Char) : Bool := ('0' ≤ c && c ≤ '7') || c == '_'

def isHexadecimal (c : Char) : Bool :=
  isDigitOrGap c || ('a' ≤ c && c ≤ 'f') || ('A' ≤ c && c ≤ 'F')

/-- Integers: binary behind `0b`, octal behind `0`, hexadecimal behind `0x`, decimal, and places to
base sixty. -/
def isInteger (cs : List Char) : Bool :=
  match dropSign cs with
  | '0' :: 'b' :: cs => !cs.isEmpty && cs.all isBinary
  | '0' :: 'x' :: cs => !cs.isEmpty && cs.all isHexadecimal
  | '0' :: cs => cs.all isOctal
  | cs =>
    match behindDigits cs with
    | some rest => (behindSixtieths rest).isEmpty
    | none => false

def isExponent : List Char → Bool
  | [] => true
  | e :: s :: d :: cs =>
    (e == 'e' || e == 'E') && (s == '+' || s == '-') && (d :: cs).all Char.isDigit
  | _ => false

def infinityWords : List (List Char) := [['i', 'n', 'f'], ['I', 'n', 'f'], ['I', 'N', 'F']]

def undefinedWords : List (List Char) := [['n', 'a', 'n'], ['N', 'a', 'N'], ['N', 'A', 'N']]

/-- Numbers with a point. Without digits in front of the point only infinity may have a sign. -/
def isReal (cs : List Char) : Bool :=
  match dropSign cs with
  | '.' :: rest =>
    infinityWords.contains rest ||
      (cs.head? == some '.' &&
        (undefinedWords.contains rest || (behindDigits rest).any isExponent))
  | unsigned =>
    match behindDigits unsigned with
    | some ('.' :: rest) => isExponent (rest.dropWhile isDigitOrGap)
    | some rest =>
      match behindSixtieth rest with
      | some rest =>
        match behindSixtieths rest with
        | '.' :: part => part.all isDigitOrGap
        | _ => false
      | none => false
    | none => false

/-- A line break at the very end says nothing about the form, unless it is all there is. -/
def formOf (s : String) : List Char :=
  match s.toList with
  | ['\n'] => ['\n']
  | cs => if cs.getLast? = some '\n' then cs.dropLast else cs

def Tag.ofPlain (s : String) : Tag :=
  let cs := formOf s
  let word := String.ofList cs
  if word = "=" then .value
  else if word = "<<" then .merge
  else if nullWords.contains word then .null
  else if boolWords.contains word then .bool
  else if isReal cs then .real
  else if isInteger cs then .int
  else if Timestamp.isShown cs then .moment
  else .text

end GroupSearch.Yaml
