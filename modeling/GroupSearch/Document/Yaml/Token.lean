import GroupSearch.Document.Yaml.Property

namespace GroupSearch.Yaml

inductive Token
  | documentStart
  | documentEnd
  | blockSequence
  | blockMapping
  | blockEnd
  | flowSequence
  | flowSequenceEnd
  | flowMapping
  | flowMappingEnd
  | dash
  | comma
  | key
  | value
  | scalar (text : String) (isPlain : Bool)
  | anchor (name : String)
  /-- An alias of the node with an anchor. -/
  | reference (name : String)
  | tag (name : TagName)
  | directive (d : Directive)
  /-- A scalar that cannot be read. -/
  | fault (f : ScalarFault)
  deriving DecidableEq, Repr

/-- A place where a key without a mark may have started: it shows as a key by the colon behind it.
-/
structure PossibleKey where
  /-- The number of tokens in front of the key. -/
  token : Nat
  /-- Whether nothing but a key may stand there. -/
  required : Bool
  index : Nat
  line : Nat
  column : Nat

structure Scanner where
  cursor : Cursor
  /-- More than the number of characters in the text: enough steps for any loop over them. -/
  size : Nat
  tokens : Array Token
  /-- The number of tokens that are told before the next one is looked for. -/
  told : Nat
  /-- The column of the innermost block collection, -1 outside all. -/
  indent : Int
  indents : List Int
  /-- For each open flow collection, the possible key in front of it or inside the one around it. -/
  outerKeys : List (Option PossibleKey)
  possibleKey : Option PossibleKey
  /-- Whether a key without a mark may start here. -/
  mayStartKey : Bool

namespace Scanner

open Cursor

abbrev Step := Except ReadError Scanner

def start (text : String) : Scanner where
  cursor := ⟨text.toList, 0, 0, 0⟩
  size := text.length + 1
  tokens := #[]
  told := 0
  indent := -1
  indents := []
  outerKeys := []
  possibleKey := none
  mayStartKey := true

def inFlow (s : Scanner) : Bool := !s.outerKeys.isEmpty

def push (t : Token) (s : Scanner) : Scanner := { s with tokens := s.tokens.push t }

def fail {α : Type} (s : Scanner) : Except ReadError α := s.cursor.fail

def unwind (column : Int) : List Int → Scanner → Scanner
  | outer :: indents, s =>
    if column < s.indent then
      unwind column indents { s.push .blockEnd with indent := outer, indents }
    else s
  | [], s => s

def unwindTo (column : Int) (s : Scanner) : Scanner :=
  if s.inFlow then s else unwind column s.indents s

def isStale (c : Cursor) (k : PossibleKey) : Bool :=
  k.line != c.line || c.index - k.index > 1024

def dropStale (s : Scanner) : Step :=
  let stale : Option PossibleKey → Bool := fun k ↦ k.any (isStale s.cursor)
  let lost : Option PossibleKey → Bool := fun k ↦ k.any fun k ↦ isStale s.cursor k && k.required
  if (s.possibleKey :: s.outerKeys).any lost then s.fail
  else
    .ok { s with
      possibleKey := if stale s.possibleKey then none else s.possibleKey
      outerKeys := s.outerKeys.map fun k ↦ if stale k then none else k }

def dropKey (s : Scanner) : Step :=
  if s.possibleKey.any PossibleKey.required then s.fail else .ok { s with possibleKey := none }

def saveKey (s : Scanner) : Step :=
  if s.mayStartKey then do
    let t ← s.dropKey
    let c := s.cursor
    return { t with
      possibleKey := some {
        token := s.tokens.size
        required := !s.inFlow && s.indent == (c.column : Int)
        index := c.index
        line := c.line
        column := c.column } }
  else .ok s

def openBlock (column : Nat) (t : Token) (at? : Option Nat) (s : Scanner) : Scanner :=
  if s.indent < (column : Int) then
    { s with
      indent := column
      indents := s.indent :: s.indents
      tokens := match at? with
        | none => s.tokens.push t
        | some i => s.tokens.insertIdxIfInBounds i t }
  else s

def advance (n : Nat) (s : Scanner) : Scanner := { s with cursor := skip n s.cursor }

def flowStart (t : Token) (s : Scanner) : Step := do
  let s ← s.saveKey
  return { (s.advance 1).push t with
    outerKeys := s.possibleKey :: s.outerKeys
    possibleKey := none
    mayStartKey := true }

def flowEnd (t : Token) (s : Scanner) : Step := do
  let s ← s.dropKey
  match s.outerKeys with
  | [] => s.fail
  | k :: ks =>
    return { (s.advance 1).push t with outerKeys := ks, possibleKey := k, mayStartKey := false }

def comma (s : Scanner) : Step := do
  let s ← s.dropKey
  return { (s.advance 1).push .comma with mayStartKey := true }

def dash (s : Scanner) : Step := do
  if !s.inFlow && !s.mayStartKey then s.fail
  let s := if s.inFlow then s else s.openBlock s.cursor.column .blockSequence none
  let s ← s.dropKey
  return { (s.advance 1).push .dash with mayStartKey := true }

def keyMark (s : Scanner) : Step := do
  if !s.inFlow && !s.mayStartKey then s.fail
  let s := if s.inFlow then s else s.openBlock s.cursor.column .blockMapping none
  let s ← s.dropKey
  return { (s.advance 1).push .key with mayStartKey := !s.inFlow }

def valueMark (s : Scanner) : Step := do
  match s.possibleKey with
  | some k =>
    let s := { s with
      possibleKey := none
      tokens := s.tokens.insertIdxIfInBounds k.token .key }
    let s := if s.inFlow then s else s.openBlock k.column .blockMapping (some k.token)
    return { (s.advance 1).push .value with mayStartKey := false }
  | none =>
    if !s.inFlow && !s.mayStartKey then s.fail
    let s := if s.inFlow then s else s.openBlock s.cursor.column .blockMapping none
    return { (s.advance 1).push .value with mayStartKey := !s.inFlow }

def documentMark (t : Token) (s : Scanner) : Step := do
  let s ← (s.unwindTo (-1)).dropKey
  return { (s.advance 3).push t with mayStartKey := false }

def scalarToken (isPlain : Bool) (value : List Char) (c : Cursor) (s : Scanner) : Scanner :=
  { s.push (.scalar (String.ofList value) isPlain) with cursor := c }

/-- The number of tokens in front of every place where a key may have started: those that are told
without a look at what follows. -/
def settled (s : Scanner) : Nat :=
  ((s.possibleKey :: s.outerKeys).filterMap (·.filter (!isStale s.cursor ·))).foldl
    (fun n k ↦ min n k.token) s.tokens.size

/-- Ends the text at a scalar that cannot be read, behind the tokens that are told before it is
looked at. -/
def giveUp (f : ScalarFault) (s : Scanner) : Scanner :=
  { s with
    cursor := { s.cursor with rest := [] }
    tokens := (s.tokens.take s.told).push (.fault f)
    indent := -1
    indents := []
    outerKeys := []
    possibleKey := none }

def quoted (quote : Char) (s : Scanner) : Step := do
  let s ← s.saveKey
  match quotedScalar quote s.size s.cursor.next [] with
  | .ok (value, c) => return { s.scalarToken false value c with mayStartKey := false }
  | .error (.scalar f) => return s.giveUp f
  | .error e => throw e

def property {α : Type} (read : Cursor → Except ReadError (α × Cursor)) (t : α → Token)
    (s : Scanner) : Step := do
  let s ← s.saveKey
  let (a, c) ← read s.cursor
  return { s.push (t a) with cursor := c, mayStartKey := false }

def directive (s : Scanner) : Step := do
  let s ← (s.unwindTo (-1)).dropKey
  match s.cursor.directive with
  | .ok (d, c) => return { s.push (.directive d) with cursor := c, mayStartKey := false }
  | .error (.scalar f) => return s.giveUp f
  | .error e => throw e

def plainWord (s : Scanner) : Step := do
  let s ← s.saveKey
  let (value, newLine, c) :=
    plain s.inFlow (s.indent + 1) s.size s.cursor [] [] false
  return { s.scalarToken true value c with mayStartKey := newLine }

def block (folded : Bool) (s : Scanner) : Step := do
  let s ← s.dropKey
  let (value, c) ← blockScalar folded s.indent s.size s.cursor.next
  return { s.scalarToken false value c with mayStartKey := true }

def toToken : Nat → Scanner → Scanner
  | 0, s => s
  | steps + 1, s =>
    let c := s.cursor.skipSpaces
    let c := if c.peek 0 = some '#' then (c.takeUntil isBreak).2 else c
    match c.peek 0 with
    | some ch =>
      if isBreak ch then
        toToken steps { s with cursor := c.next, mayStartKey := s.mayStartKey || !s.inFlow }
      else { s with cursor := c }
    | none => { s with cursor := c }

def startsPlain (flow : Bool) (c : Char) (next : Option Char) : Bool :=
  !(isApart (some c) || "-?:,[]\x7b\x7d#&*!|>'\"%@`".toList.contains c) ||
    (!isApart next && (c == '-' || (!flow && (c == '?' || c == ':'))))

def token (ch : Char) (s : Scanner) : Step :=
  let c := s.cursor
  let next := c.peek 1
  if ch = '%' ∧ c.column = 0 then s.directive
  else if c.atMarker '-' then s.documentMark .documentStart
  else if c.atMarker '.' then s.documentMark .documentEnd
  else if ch = '[' then s.flowStart .flowSequence
  else if ch = '\x7b' then s.flowStart .flowMapping
  else if ch = ']' then s.flowEnd .flowSequenceEnd
  else if ch = '\x7d' then s.flowEnd .flowMappingEnd
  else if ch = ',' then s.comma
  else if ch = '-' ∧ isApart next then s.dash
  else if ch = '?' ∧ (s.inFlow ∨ isApart next) then s.keyMark
  else if ch = ':' ∧ (s.inFlow ∨ isApart next) then s.valueMark
  else if ch = '*' then s.property (·.next.anchor) .reference
  else if ch = '&' then s.property (·.next.anchor) .anchor
  else if ch = '!' then s.property Cursor.tag .tag
  else if ch = '|' ∧ !s.inFlow then s.block false
  else if ch = '>' ∧ !s.inFlow then s.block true
  else if ch = '\'' ∨ ch = '"' then s.quoted ch
  else if startsPlain s.inFlow ch next then s.plainWord
  else s.fail

def run : Nat → Scanner → Except ReadError (List Token)
  | 0, s => s.fail
  | steps + 1, s => do
    let told := s.settled
    let s ← (toToken s.size { s with told }).dropStale
    let s := s.unwindTo s.cursor.column
    match s.cursor.rest with
    | [] =>
      let s ← (s.unwindTo (-1)).dropKey
      return s.tokens.toList
    | ch :: _ => run steps (← s.token ch)

end Scanner

def isAllowed (c : Char) : Bool :=
  let n := c.toNat
  n == 0x09 || n == 0x0A || n == 0x0D || (0x20 ≤ n && n ≤ 0x7E) || n == 0x85 ||
    (0xA0 ≤ n && n ≤ 0xFFFD) || 0x10000 ≤ n

def dropByteOrderMark (text : String) : String :=
  match text.toList with
  | '\uFEFF' :: cs => String.ofList cs
  | _ => text

def tokens (text : String) : Except ReadError (List Token) :=
  if text.toList.all isAllowed then
    let s := Scanner.start (dropByteOrderMark text)
    s.run s.size
  else .error (.malformed ⟨0, 0⟩)

end GroupSearch.Yaml
