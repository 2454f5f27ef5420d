import GroupSearch.Document.Yaml.Cursor
import GroupSearch.Text.Decimal
import GroupSearch.Text.Quoted

namespace GroupSearch.Yaml

inductive FaultKind
  | value
  | type
  | overflow
  /-- A text with too few characters. -/
  | index
  /-- A word that is not among those known. -/
  | key
  /-- A text of the wrong form. -/
  | form
  deriving DecidableEq, Repr

inductive ScalarFault
  | noInteger (base : Nat) (spelling : String)
  | overlong (numeral : Text.Overlong)
  | noReal (spelling : String)
  | emptyNumber
  | noBool (spelling : String)
  | noMoment
  /-- A mapping in the place of a point in time. -/
  | mappedMoment
  | yearZero
  | month
  | day
  | hour
  | minute
  | second
  /-- A time zone a day or more away, in minutes. -/
  | offset (minutes : Int)
  /-- A code behind the last character. -/
  | code
  /-- A code of more than 31 bits. -/
  | codeSize
  /-- A place to base sixty beyond the range of numbers with a point. -/
  | place
  deriving DecidableEq, Repr

namespace ScalarFault

def offsetText (minutes : Int) : String :=
  let seconds := 60 * (minutes % 1440)
  s!"datetime.timedelta(days={minutes / 1440}" ++
    (if seconds = 0 then ")" else s!", seconds={seconds})")

def longestSpelling : Nat := 200

def message : ScalarFault → String
  | noInteger base s =>
    s!"invalid literal for int() with base {base}: " ++
      String.ofList ((Text.quoted s).toList.take longestSpelling)
  | overlong o => o.message
  | noReal s => s!"could not convert string to float: {Text.quoted s}"
  | emptyNumber => "string index out of range"
  | noBool s => Text.quoted s
  | noMoment => "'NoneType' object has no attribute 'groupdict'"
  | mappedMoment => "expected string or bytes-like object, got 'list'"
  | yearZero => "year 0 is out of range"
  | month => "month must be in 1..12"
  | day => "day is out of range for month"
  | hour => "hour must be in 0..23"
  | minute => "minute must be in 0..59"
  | second => "second must be in 0..59"
  | offset minutes =>
    "offset must be a timedelta strictly between -timedelta(hours=24) and timedelta(hours=24), not " ++
      offsetText minutes ++ "."
  | code => "chr() arg not in range(0x110000)"
  | codeSize => "Python int too large to convert to C int"
  | place => "int too large to convert to float"

def kind : ScalarFault → FaultKind
  | emptyNumber => .index
  | noBool _ => .key
  | noMoment => .form
  | mappedMoment => .type
  | codeSize | place => .overflow
  | _ => .value

end ScalarFault

inductive ReadError
  | malformed (place : Malformed)
  /-- A collection as a key, or a node whose tag does not fit it. -/
  | misplaced
  | scalar (fault : ScalarFault)
  deriving DecidableEq, Repr

def ReadError.message : ReadError → String
  | malformed e => e.message
  | misplaced => "a node stands where it cannot be used"
  | scalar f => f.message

def Cursor.fail {α : Type} (c : Cursor) : Except ReadError α := .error (.malformed c.malformed)

end GroupSearch.Yaml
