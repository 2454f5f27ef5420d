namespace GroupSearch.Yaml

structure Malformed where
  line : Nat
  column : Nat
  deriving DecidableEq, Repr

def Malformed.message (e : Malformed) : String :=
  s!"malformed document at line {e.line + 1}, column {e.column + 1}"

def isBreak (c : Char) : Bool := c == '\n' || c == '\x85' || c == '\u2028' || c == '\u2029'

def isApart : Option Char → Bool
  | none => true
  | some c => c == ' ' || c == '\t' || isBreak c

def breakChar (c : Char) : Char := if c = '\x85' then '\n' else c

structure Cursor where
  rest : List Char
  index : Nat
  line : Nat
  column : Nat

namespace Cursor

def peek (c : Cursor) (ahead : Nat) : Option Char := c.rest[ahead]?

def malformed (c : Cursor) : Malformed := ⟨c.line, c.column⟩

def next (c : Cursor) : Cursor :=
  match c.rest with
  | [] => c
  | ch :: cs =>
    if isBreak ch then ⟨cs, c.index + 1, c.line + 1, 0⟩
    else ⟨cs, c.index + 1, c.line, if ch = '\uFEFF' then c.column else c.column + 1⟩

def skip : Nat → Cursor → Cursor
  | 0, c => c
  | n + 1, c => skip n c.next

def takeUntil (stop : Char → Bool) (c : Cursor) : List Char × Cursor :=
  let cs := c.rest.takeWhile fun ch ↦ !stop ch
  (cs, skip cs.length c)

def skipSpaces (c : Cursor) : Cursor := (c.takeUntil (· != ' ')).2

def atMarker (mark : Char) (c : Cursor) : Bool :=
  c.column == 0 && (c.rest.take 3) == [mark, mark, mark] && isApart (c.peek 3)

def atDocumentMark (c : Cursor) : Bool := c.atMarker '-' || c.atMarker '.'

end Cursor

end GroupSearch.Yaml
