import GroupSearch.Document.Yaml.Fault

-- Powers are those of the core library, whatever other instances are around.
attribute [local instance (2000)] instPowNat

namespace GroupSearch.Yaml

open Cursor

abbrev Read := Except ReadError (List Char × Cursor)

def joinLines (first : Char) (more : List Char) : List Char :=
  if first ≠ '\n' then first :: more else if more.isEmpty then [' '] else more

def plainBreaks : Nat → Cursor → List Char → List Char × Bool × Cursor
  | 0, c, more => (more, false, c)
  | steps + 1, c, more =>
    match c.rest with
    | ch :: _ =>
      if ch = ' ' then plainBreaks steps c.next more
      else if isBreak ch then
        if c.next.atDocumentMark then (more ++ [breakChar ch], true, c.next)
        else plainBreaks steps c.next (more ++ [breakChar ch])
      else (more, false, c)
    | [] => (more, false, c)

def plainSeparation (steps : Nat) (c : Cursor) : List Char × Bool × Cursor :=
  let (spaces, d) := c.takeUntil (· != ' ')
  match d.rest with
  | ch :: _ =>
    if isBreak ch then
      if d.next.atDocumentMark then ([], true, d.next)
      else
        match plainBreaks steps d.next [] with
        | (_, true, e) => ([], true, e)
        | (more, false, e) => (joinLines (breakChar ch) more, true, e)
    else (spaces, false, d)
  | [] => (spaces, false, d)

/-- The length of the part of a plain scalar at the start of the text: up to a blank, a line break,
a colon that ends a key, or a mark of flow collections inside one. -/
def plainLength (flow : Bool) : List Char → Nat
  | [] => 0
  | c :: cs =>
    if isApart (some c) then 0
    else if c = ':' ∧
        (isApart cs.head? ∨ (flow ∧ cs.head?.any [',', '[', ']', '\x7b', '\x7d'].contains)) then 0
    else if flow ∧ [',', '?', '[', ']', '\x7b', '\x7d'].contains c then 0
    else plainLength flow cs + 1

def plain (flow : Bool) (indent : Int) :
    Nat → Cursor → List Char → List Char → Bool → List Char × Bool × Cursor
  | 0, c, value, _, newLine => (value, newLine, c)
  | steps + 1, c, value, separation, newLine =>
    if c.peek 0 = some '#' then (value, newLine, c)
    else
      match plainLength flow c.rest with
      | 0 => (value, newLine, c)
      | n + 1 =>
        let value := value ++ separation ++ c.rest.take (n + 1)
        let (separation, newLine, d) := plainSeparation steps (skip (n + 1) c)
        if separation.isEmpty || d.peek 0 = some '#' || (!flow && (d.column : Int) < indent) then
          (value, newLine, d)
        else plain flow indent steps d value separation newLine

def quotedBreaks : Nat → Cursor → List Char → Read
  | 0, c, _ => c.fail
  | steps + 1, c, more =>
    if c.atDocumentMark then c.fail
    else
      let d := (c.takeUntil fun ch ↦ ch != ' ' && ch != '\t').2
      match d.rest with
      | ch :: _ =>
        if isBreak ch then quotedBreaks steps d.next (more ++ [breakChar ch]) else .ok (more, d)
      | [] => .ok (more, d)

def escaped? : Char → Option Char
  | '0' => some '\x00'
  | 'a' => some '\x07'
  | 'b' => some '\x08'
  | 't' => some '\t'
  | '\t' => some '\t'
  | 'n' => some '\n'
  | 'v' => some '\x0b'
  | 'f' => some '\x0c'
  | 'r' => some '\r'
  | 'e' => some '\x1b'
  | ' ' => some ' '
  | '"' => some '"'
  | '\\' => some '\\'
  | '/' => some '/'
  | 'N' => some '\x85'
  | '_' => some '\xa0'
  | 'L' => some '\u2028'
  | 'P' => some '\u2029'
  | _ => none

def escapeWidth? : Char → Option Nat
  | 'x' => some 2
  | 'u' => some 4
  | 'U' => some 8
  | _ => none

def hexValue? (c : Char) : Option Nat :=
  if c.isDigit then some (c.toNat - '0'.toNat)
  else if 'a' ≤ c ∧ c ≤ 'f' then some (c.toNat - 'a'.toNat + 10)
  else if 'A' ≤ c ∧ c ≤ 'F' then some (c.toNat - 'A'.toNat + 10)
  else none

def hexNumber? (width : Nat) (cs : List Char) : Option Nat := do
  let digits ← (cs.take width).mapM hexValue?
  guard (digits.length = width)
  return digits.foldl (fun n d ↦ 16 * n + d) 0

/-- The character with a code. A half of a pair is a code point, but no character that a text can
hold: it is replaced. -/
def charOfCode (n : Nat) : Except ScalarFault Char :=
  if 2 ^ (31 : Nat) ≤ n then .error .codeSize
  else if 0x110000 ≤ n then .error .code
  else .ok (if n.isValidChar then Char.ofNat n else '\uFFFD')

def isHighHalf (n : Nat) : Bool := 0xD800 ≤ n && n < 0xDC00

def isLowHalf (n : Nat) : Bool := 0xDC00 ≤ n && n < 0xE000

def lowHalf? (cs : List Char) : Option Nat :=
  match cs with
  | '\\' :: 'u' :: digits => (hexNumber? 4 digits).filter isLowHalf
  | _ => none

/-- The character of a numeric escape, and the number of characters behind its letter that it takes.
Two halves of a pair are one character. -/
def numericEscape? (width : Nat) (cs : List Char) : Option (Except ScalarFault Char × Nat) := do
  let n ← hexNumber? width cs
  match lowHalf? (cs.drop width) with
  | some low =>
    if isHighHalf n then
      return (charOfCode (0x10000 + (n - 0xD800) * 0x400 + (low - 0xDC00)), width + 6)
    else return (charOfCode n, width)
  | none => return (charOfCode n, width)

def quotedScalar (quote : Char) : Nat → Cursor → List Char → Read
  | 0, c, _ => c.fail
  | steps + 1, c, value =>
    match c.rest with
    | [] => c.fail
    | ch :: cs =>
      if ch = quote then
        if quote = '\'' ∧ cs.head? = some '\'' then
          quotedScalar quote steps (skip 2 c) (value ++ ['\''])
        else .ok (value, c.next)
      else if ch = '\\' ∧ quote = '"' then
        match cs with
        | [] => c.fail
        | e :: digits =>
          match escaped? e, escapeWidth? e with
          | some x, _ => quotedScalar quote steps (skip 2 c) (value ++ [x])
          | none, some width =>
            match numericEscape? width digits with
            | some (.ok x, length) =>
              quotedScalar quote steps (skip (2 + length) c) (value ++ [x])
            | some (.error f, _) => .error (.scalar f)
            | none => c.fail
          | none, none =>
            if isBreak e then
              match quotedBreaks (steps + 1) (skip 2 c) [] with
              | .ok (more, d) => quotedScalar quote steps d (value ++ more)
              | .error e => .error e
            else c.fail
      else if ch = ' ' ∨ ch = '\t' ∨ isBreak ch then
        let (blanks, d) := c.takeUntil fun ch ↦ ch != ' ' && ch != '\t'
        match d.rest with
        | [] => d.fail
        | b :: _ =>
          if isBreak b then
            match quotedBreaks (steps + 1) d.next [] with
            | .ok (more, f) => quotedScalar quote steps f (value ++ joinLines (breakChar b) more)
            | .error e => .error e
          else quotedScalar quote steps d (value ++ blanks)
      else quotedScalar quote steps c.next (value ++ [ch])

inductive Chomping
  | strip
  | clip
  | keep
  deriving DecidableEq, Repr

def blockHeader (c : Cursor) : Except ReadError (Chomping × Option Nat × Cursor) :=
  let sign : Char → Option Chomping := fun
    | '+' => some .keep
    | '-' => some .strip
    | _ => none
  let number : Char → Option Nat := fun ch ↦
    if ch.isDigit ∧ ch ≠ '0' then some (ch.toNat - '0'.toNat) else none
  let (chomping, increment, d) :=
    match (c.peek 0).bind sign, (c.peek 0).bind number with
    | some s, _ =>
      match (c.peek 1).bind number with
      | some n => (s, some n, skip 2 c)
      | none => (s, none, skip 1 c)
    | none, some n =>
      match (c.peek 1).bind sign with
      | some s => (s, some n, skip 2 c)
      | none => (.clip, some n, skip 1 c)
    | none, none => (Chomping.clip, none, c)
  let spaced := d.skipSpaces
  if d.peek 0 = some '#' then d.fail
  else
    let e := if spaced.peek 0 = some '#' then (spaced.takeUntil isBreak).2 else spaced
    match e.peek 0 with
    | none => .ok (chomping, increment, e)
    | some ch => if isBreak ch then .ok (chomping, increment, e.next) else e.fail

def blockIndentation : Nat → Cursor → List Char → Nat → List Char × Nat × Cursor
  | 0, c, breaks, deepest => (breaks, deepest, c)
  | steps + 1, c, breaks, deepest =>
    match c.rest with
    | ch :: _ =>
      if ch = ' ' then blockIndentation steps c.next breaks (max deepest c.next.column)
      else if isBreak ch then blockIndentation steps c.next (breaks ++ [breakChar ch]) deepest
      else (breaks, deepest, c)
    | [] => (breaks, deepest, c)

def blockBreaks (indent : Nat) : Nat → Cursor → List Char → List Char × Cursor
  | 0, c, breaks => (breaks, c)
  | steps + 1, c, breaks =>
    match c.rest with
    | ch :: _ =>
      if ch = ' ' ∧ c.column < indent then blockBreaks indent steps c.next breaks
      else if isBreak ch then blockBreaks indent steps c.next (breaks ++ [breakChar ch])
      else (breaks, c)
    | [] => (breaks, c)

def isIndented (c : Cursor) : Bool := c.peek 0 == some ' ' || c.peek 0 == some '\t'

def blockLines (folded : Bool) (indent : Nat) :
    Nat → Cursor → List Char → List Char → List Char × List Char × List Char × Cursor
  | 0, c, value, breaks => (value, [], breaks, c)
  | steps + 1, c, value, breaks =>
    if c.column ≠ indent ∨ c.rest = [] then (value, [], breaks, c)
    else
      let (line, d) := c.takeUntil isBreak
      let value := value ++ breaks ++ line
      let lineBreak := (d.peek 0).toList.map breakChar
      let (breaks, e) := blockBreaks indent (steps + 1) d.next []
      if e.column = indent ∧ e.rest ≠ [] then
        let joint :=
          if folded ∧ lineBreak = ['\n'] ∧ !isIndented c ∧ !isIndented e then
            if breaks.isEmpty then [' '] else []
          else lineBreak
        blockLines folded indent steps e (value ++ joint) breaks
      else (value, lineBreak, breaks, e)

def blockScalar (folded : Bool) (outer : Int) (steps : Nat) (c : Cursor) : Read := do
  let (chomping, increment, d) ← blockHeader c
  let least := (max (outer + 1) 1).toNat
  let (breaks, indent, e) :=
    match increment with
    | none =>
      let (breaks, deepest, e) := blockIndentation steps d [] 0
      (breaks, max least deepest, e)
    | some n =>
      let indent := least + n - 1
      let (breaks, e) := blockBreaks indent steps d []
      (breaks, indent, e)
  let (value, lineBreak, breaks, f) := blockLines folded indent steps e [] breaks
  match chomping with
  | .strip => return (value, f)
  | .clip => return (value ++ lineBreak, f)
  | .keep => return (value ++ lineBreak ++ breaks, f)

end GroupSearch.Yaml
