import GroupSearch.Document.Value
import GroupSearch.Document.Yaml.Fault
import GroupSearch.Document.Yaml.Plain
import GroupSearch.Number.Spelling
import GroupSearch.Text.Base64
import GroupSearch.Text.Lowercase

namespace GroupSearch.Yaml

def dropGaps (s : String) : List Char := s.toList.filter (· != '_')

def boolMeanings : List (String × Bool) :=
  [("yes", true), ("no", false), ("true", true), ("false", false), ("on", true), ("off", false)]

def readBool (s : String) : Except ScalarFault Value :=
  let word := Text.lower s
  match boolMeanings.lookup word with
  | some b => .ok (.bool b)
  | none => .error (.noBool word)

/-- Only decimal digits are counted, whatever stands behind them. -/
def overlongIn? (base : Nat) (s : String) : Option Text.Overlong :=
  if base = 10 then
    Text.overlong? ((Text.splitSign (Text.numeralChars s)).2.takeWhile Char.isDigit).length
  else none

def integerIn (base : Nat) (cs : List Char) : Except ScalarFault Int :=
  let s := String.ofList cs
  match overlongIn? base s, Text.numeral? base s with
  | some o, _ => .error (.overlong o)
  | none, some n => .ok n
  | none, none => .error (.noInteger base s)

/-- An integer without its sign. The base shows in its first two characters; colons part places to
base sixty. -/
def readUnsigned : List Char → Except ScalarFault Int
  | [] => .error .emptyNumber
  | ['0'] => .ok 0
  | '0' :: 'b' :: cs => integerIn 2 cs
  | '0' :: 'x' :: cs => integerIn 16 cs
  | '0' :: cs => integerIn 8 ('0' :: cs)
  | cs =>
    if cs.contains ':' then
      ((colonParts (String.ofList cs)).mapM fun part ↦ integerIn 10 part.toList).map ofSixtieths
    else integerIn 10 cs

def readInt (s : String) : Except ScalarFault Value := do
  let (negative, cs) := Text.splitSign (dropGaps s)
  let n ← readUnsigned cs
  return .int (if negative then -n else n)

def realIn (s : String) : Except ScalarFault Double :=
  match Double.ofText? s with
  | some x => .ok x
  | none => .error (.noReal s)

def readMagnitude (s : String) : Except ScalarFault Double :=
  if s = ".inf" then .ok (.infinite false)
  else if s = ".nan" then .ok .undefined
  else if s.toList.contains ':' then do
    match Double.ofSixtieths? (← (colonParts s).mapM realIn) with
    | some x => return x
    | none => throw .place
  else realIn s

def readReal (s : String) : Except ScalarFault Value :=
  match dropGaps s with
  | [] => .error .emptyNumber
  | cs => do
    let (negative, cs) := Text.splitSign (Text.lower (String.ofList cs)).toList
    let x ← readMagnitude (String.ofList cs)
    return .real (if negative then x.neg else x)

def readMoment (s : String) : Except ScalarFault Value :=
  match Timestamp.read? (formOf s) with
  | none => .error .noMoment
  | some t =>
    match t.fault? with
    | some f => .error f
    | none => .ok (.other false)

def readBinary (s : String) : Except ReadError Value :=
  if s.toList.all fun c ↦ c.toNat < 0x80 then
    match Text.decodeBase64 s.toList with
    | some bytes => .ok (.other bytes.isEmpty)
    | none => .error .misplaced
  else .error .misplaced

/-- The value of a scalar. Tags of other nodes mean nothing in front of a text. -/
def Tag.read (s : String) : Tag → Except ReadError Value
  | null => .ok .null
  | bool => (readBool s).mapError .scalar
  | int => (readInt s).mapError .scalar
  | real => (readReal s).mapError .scalar
  | binary => readBinary s
  | moment => (readMoment s).mapError .scalar
  | text => .ok (.text s)
  | list | record | set | pairs | merge | value | unknown => .error .misplaced

end GroupSearch.Yaml
