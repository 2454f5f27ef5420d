import GroupSearch.Document.Yaml.Fault

namespace GroupSearch.Yaml

structure TimeOfDay where
  hour : Nat
  minute : Nat
  second : Nat
  /-- Minutes ahead of universal time, where a sign and a number give them. -/
  offset : Option Int
  deriving DecidableEq, Repr

structure Timestamp where
  year : Nat
  month : Nat
  day : Nat
  time : Option TimeOfDay
  deriving DecidableEq, Repr

namespace Timestamp

def number? (least most : Nat) (cs : List Char) : Option (Nat × List Char) :=
  let digits := (cs.take most).takeWhile Char.isDigit
  if digits.length < least then none
  else some (Nat.ofDigitChars 10 digits 0, cs.drop digits.length)

def dropChar (c : Char) : List Char → Option (List Char)
  | [] => none
  | d :: cs => if d = c then some cs else none

def isSpaceOrTab (c : Char) : Bool := c == ' ' || c == '\t'

def zone? (cs : List Char) : Option (Option Int) :=
  match cs.dropWhile isSpaceOrTab with
  | [] => if cs.isEmpty then some none else none
  | ['Z'] => some none
  | sign :: rest => do
    guard (sign == '+' || sign == '-')
    let (hours, rest) ← number? 1 2 rest
    let minutes ← match rest with
      | [] => some 0
      | rest => do
        let (minutes, rest) ← number? 2 2 (← dropChar ':' rest)
        guard rest.isEmpty
        some minutes
    let minutes : Int := 60 * hours + minutes
    return some (if sign = '-' then -minutes else minutes)

def dropFraction : List Char → List Char
  | '.' :: cs => cs.dropWhile Char.isDigit
  | cs => cs

def timeOfDay? (cs : List Char) : Option TimeOfDay := do
  let (hour, cs) ← number? 1 2 cs
  let (minute, cs) ← number? 2 2 (← dropChar ':' cs)
  let (second, cs) ← number? 2 2 (← dropChar ':' cs)
  return ⟨hour, minute, second, ← zone? (dropFraction cs)⟩

def dropSeparator : List Char → Option (List Char)
  | [] => none
  | c :: cs =>
    if c = 'T' ∨ c = 't' then some cs
    else if isSpaceOrTab c then some (cs.dropWhile isSpaceOrTab)
    else none

def day? (least : Nat) (cs : List Char) : Option (Timestamp × List Char) := do
  let (year, cs) ← number? 4 4 cs
  let (month, cs) ← number? least 2 (← dropChar '-' cs)
  let (day, cs) ← number? least 2 (← dropChar '-' cs)
  return (⟨year, month, day, none⟩, cs)

def read? (cs : List Char) : Option Timestamp := do
  let (t, rest) ← day? 1 cs
  match rest with
  | [] => some t
  | rest => some { t with time := some (← timeOfDay? (← dropSeparator rest)) }

def isShown (cs : List Char) : Bool :=
  match read? cs with
  | some t => t.time.isSome || (day? 2 cs).isSome
  | none => false

def isLeapYear (year : Nat) : Bool :=
  year % 4 == 0 && (year % 100 != 0 || year % 400 == 0)

def daysInMonth (year month : Nat) : Nat :=
  if month = 2 then if isLeapYear year then 29 else 28
  else if [4, 6, 9, 11].contains month then 30
  else 31

def offsetFault (minutes : Int) : Option ScalarFault :=
  if minutes.natAbs < 1440 then none else some (.offset minutes)

/-- The first of the faults of a point: its time zone is looked at before its day, and the day
before the time. -/
def fault? (t : Timestamp) : Option ScalarFault :=
  match t.time.bind TimeOfDay.offset >>= offsetFault with
  | some f => some f
  | none =>
    if t.year = 0 then some .yearZero
    else if t.month = 0 ∨ 12 < t.month then some .month
    else if t.day = 0 ∨ daysInMonth t.year t.month < t.day then some .day
    else
      match t.time with
      | none => none
      | some time =>
        if 23 < time.hour then some .hour
        else if 59 < time.minute then some .minute
        else if 59 < time.second then some .second
        else none

end Timestamp

end GroupSearch.Yaml
