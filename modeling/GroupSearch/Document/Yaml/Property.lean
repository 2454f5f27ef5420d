import GroupSearch.Document.Yaml.Scalar

namespace GroupSearch.Yaml

/-- A tag as it is written: a handle that stands for the start of the tag, if there is one, and the
rest. -/
structure TagName where
  handle : Option String
  suffix : String
  deriving DecidableEq, Repr

inductive Directive
  | version (major minor : Nat)
  /-- The start of the tags that are written with a handle. -/
  | handle (name start : String)
  /-- One that means nothing here. -/
  | other
  deriving DecidableEq, Repr

namespace Cursor

def isNameChar (c : Char) : Bool := c.isAlphanum || c == '-' || c == '_'

def endsWord : Option Char → Bool
  | none => true
  | some c => c == ' ' || isBreak c

def nonempty (read : List Char × Cursor) : Except ReadError (String × Cursor) :=
  if read.1.isEmpty then read.2.fail else .ok (String.ofList read.1, read.2)

def name (c : Cursor) : Except ReadError (String × Cursor) := nonempty (c.takeUntil (!isNameChar ·))

def anchor (c : Cursor) : Except ReadError (String × Cursor) := do
  let (s, d) ← c.name
  if isApart (d.peek 0) || (d.peek 0).any ("?:,]\x7d%@`".toList.contains ·) then return (s, d)
  else d.fail

def isUriChar (c : Char) : Bool := c.isAlphanum || "-;/?:@&=+$,_.!~*'()[]".contains c

def escapedBytes : List Char → Option (List UInt8 × List Char)
  | '%' :: a :: b :: cs => do
    let n ← hexNumber? 2 [a, b]
    let (bytes, rest) ← escapedBytes cs
    return (n.toUInt8 :: bytes, rest)
  | '%' :: _ => none
  | cs => some ([], cs)

def uriChars : Nat → List Char → Option (List Char × List Char)
  | 0, cs => some ([], cs)
  | steps + 1, cs =>
    match cs with
    | [] => some ([], [])
    | c :: rest =>
      if c = '%' then do
        let (bytes, rest) ← escapedBytes cs
        let s ← String.fromUTF8? ⟨bytes.toArray⟩
        let (more, rest) ← uriChars steps rest
        return (s.toList ++ more, rest)
      else if isUriChar c then (uriChars steps rest).map fun (more, rest) ↦ (c :: more, rest)
      else some ([], cs)

def uri (c : Cursor) : Except ReadError (String × Cursor) :=
  match uriChars c.rest.length c.rest with
  | some (cs, rest) => nonempty (cs, skip (c.rest.length - rest.length) c)
  | none => c.fail

def tagHandle (c : Cursor) : Except ReadError (String × Cursor) :=
  if c.peek 0 ≠ some '!' then c.fail
  else if c.peek 1 = some ' ' then .ok ("!", c.next)
  else
    let (cs, d) := c.next.takeUntil (!isNameChar ·)
    if d.peek 0 = some '!' then .ok ("!" ++ String.ofList cs ++ "!", d.next) else d.fail

def tag (c : Cursor) : Except ReadError (TagName × Cursor) := do
  let (t, d) ←
    if c.peek 1 = some '<' then do
      let (s, d) ← (skip 2 c).uri
      if d.peek 0 = some '>' then .ok (⟨none, s⟩, d.next) else d.fail
    else if isApart (c.peek 1) then .ok (⟨none, "!"⟩, c.next)
    else do
      let (word, _) := c.next.takeUntil fun ch ↦ endsWord (some ch)
      let (handle, d) ← if word.contains '!' then c.tagHandle else .ok ("!", c.next)
      let (s, d) ← d.uri
      .ok (⟨some handle, s⟩, d)
  if endsWord (d.peek 0) then return (t, d) else d.fail

def number (c : Cursor) : Except ReadError (Nat × Cursor) := do
  let (s, d) ← nonempty (c.takeUntil (!Char.isDigit ·))
  match Text.overlong? s.length with
  | some o => throw (.scalar (.overlong o))
  | none => return (Nat.ofDigitChars 10 s.toList 0, d)

def version (c : Cursor) : Except ReadError (Directive × Cursor) := do
  let (major, d) ← c.number
  if d.peek 0 ≠ some '.' then d.fail
  let (minor, e) ← d.next.number
  if endsWord (e.peek 0) then return (.version major minor, e) else e.fail

def handleStart (c : Cursor) : Except ReadError (Directive × Cursor) := do
  let (handle, d) ← c.tagHandle
  if d.peek 0 ≠ some ' ' then d.fail
  let (start, e) ← d.skipSpaces.uri
  if endsWord (e.peek 0) then return (.handle handle start, e) else e.fail

def endLine (c : Cursor) : Except ReadError Cursor :=
  let d := c.skipSpaces
  let e := if d.peek 0 = some '#' then (d.takeUntil isBreak).2 else d
  match e.peek 0 with
  | none => .ok e
  | some ch => if isBreak ch then .ok e.next else e.fail

def directive (c : Cursor) : Except ReadError (Directive × Cursor) := do
  let (s, d) ← c.next.name
  if !endsWord (d.peek 0) then d.fail
  let (v, e) ←
    if s = "YAML" then d.skipSpaces.version
    else if s = "TAG" then d.skipSpaces.handleStart
    else .ok (.other, (d.takeUntil isBreak).2)
  return (v, ← e.endLine)

end Cursor

end GroupSearch.Yaml
