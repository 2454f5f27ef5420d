import GroupSearch.Log.Conversion
import GroupSearch.Log.Placeholder

-- Powers are those of the core library, whatever other instances are around.
attribute [local instance (2000)] instPowNat

namespace GroupSearch.Log

open Value

inductive Piece
  | char (c : Char)
  | place (p : Placeholder)
  deriving DecidableEq, Repr

/-- The characters and places of a template, if every place is complete. A doubled percent sign
stands for one. -/
def pieces (cs : List Char) : Option (List Piece) :=
  match cs with
  | [] => some []
  | '%' :: '%' :: cs => (pieces cs).map (.char '%' :: ·)
  | '%' :: cs =>
    match h : Placeholder.read cs with
    | none => none
    | some (p, rest) =>
      have : rest.length < cs.length := Placeholder.length_of_read h
      (pieces rest).map (.place p :: ·)
  | c :: cs => (pieces cs).map (.char c :: ·)
termination_by cs.length

structure Supply where
  /-- The record that keys are looked up in. -/
  fields : Option Fields
  pending : List Value

namespace Supply

/-- A record that is not empty is looked up by key if it is the only value. -/
def ofValues : List Value → Supply
  | [record (field :: fields)] => ⟨some (field :: fields), [record (field :: fields)]⟩
  | values => ⟨none, values⟩

def take (s : Supply) : Option (Value × Supply) :=
  match s.pending with
  | [] => none
  | v :: vs => some (v, { s with pending := vs })

def select (key : Option String) (s : Supply) : Option Supply :=
  match key with
  | none => some s
  | some k => do
    let v ← field? (← s.fields) k
    return { s with pending := [v] }

def extent (bound : Nat) (e : Option Extent) (s : Supply) : Option (Option Int × Supply) :=
  match e with
  | none => some (none, s)
  | some (.given n) => if n < bound then some (some n, s) else none
  | some .taken => do
    let (v, s) ← s.take
    let n ← wholeNumber? v
    if n.natAbs < bound then some (some n, s) else none

def isSpent (s : Supply) : Bool := s.fields.isSome || s.pending.isEmpty

end Supply

/-- The text of a place. A negative width means blanks on the right, and a negative precision none.
-/
def Placeholder.fill (p : Placeholder) (s : Supply) : Option (List Char × Supply) := do
  let s ← s.select p.key
  let (width, s) ← s.extent (2 ^ (63 : Nat)) p.width
  let (precision, s) ← s.extent (2 ^ (31 : Nat)) p.precision
  let (v, s) ← s.take
  let figure ← convert (p.flags.contains '#') (precision.map Int.toNat) p.letter v
  let mark :=
    if p.flags.contains '+' then some '+' else if p.flags.contains ' ' then some ' ' else none
  let width := width.getD 0
  return ((figure.signed mark).filled (p.flags.contains '-' || width < 0)
    (p.flags.contains '0') width.natAbs, s)

def fill : List Piece → Supply → Option (List Char)
  | [], s => if s.isSpent then some [] else none
  | .char c :: ps, s => (fill ps s).map (c :: ·)
  | .place p :: ps, s => do
    let (cs, s) ← p.fill s
    return cs ++ (← fill ps s)

/-- Without values a message is no template. -/
def message (template : String) (values : List Value) : Option String :=
  if values.isEmpty then some template
  else do
    return String.ofList (← fill (← pieces template.toList) (.ofValues values))

def Placeholder.text : Placeholder := ⟨none, [], none, none, 's'⟩

end GroupSearch.Log
