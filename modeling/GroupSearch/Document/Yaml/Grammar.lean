import GroupSearch.Document.Yaml.Graph
import GroupSearch.Document.Yaml.Plain
import GroupSearch.Document.Yaml.Token

namespace GroupSearch.Yaml

/-- The tokens ahead, and what has been read so far. -/
structure Reading where
  ahead : List Token
  graph : Graph
  anchors : List (String × NodeId)
  /-- The starts of tags by their handles. -/
  handles : List (String × String)
  /-- The nodes in the order in which they were completed. -/
  completed : Array NodeId

abbrev Rule := StateT Reading (Except ReadError)

namespace Rule

def fail {α : Type} : Rule α := throw (.malformed ⟨0, 0⟩)

def peek : Rule (Option Token) := do
  match (← get).ahead with
  | [] => return none
  | .fault f :: _ => throw (.scalar f)
  | t :: _ => return some t

def pass : Rule Unit := modify fun r ↦ { r with ahead := r.ahead.drop 1 }

def accept (t : Token) : Rule Bool := do
  if (← peek) == some t then
    pass
    return true
  else return false

/-- Gives a node its place, and its anchor, which no other node of the document has. -/
def place (anchor : Option String) : Rule NodeId := do
  let r ← get
  let id := r.graph.size
  let anchors ← match anchor with
    | none => pure r.anchors
    | some a => if (r.anchors.lookup a).isSome then fail else pure ((a, id) :: r.anchors)
  set { r with graph := r.graph.push .empty, anchors }
  return id

def complete (id : NodeId) (n : Node) : Rule NodeId := do
  modify fun r ↦ { r with graph := r.graph.setIfInBounds id n, completed := r.completed.push id }
  return id

def anchored (name : String) : Rule NodeId := do
  match (← get).anchors.lookup name with
  | some id => return id
  | none => fail

def fullName (t : TagName) : Rule String := do
  match t.handle with
  | none => return t.suffix
  | some handle =>
    match (← get).handles.lookup handle with
    | some start => return start ++ t.suffix
    | none => fail

end Rule

structure Properties where
  anchor : Option String
  tag : Option String

namespace Properties

def none : Properties := ⟨.none, .none⟩

def isNone (p : Properties) : Bool := p.anchor.isNone && p.tag.isNone

def openTag : String := "!"

def scalarTag (p : Properties) (text : String) (isPlain : Bool) : Tag :=
  match p.tag with
  | .none => if isPlain then .ofPlain text else .text
  | some name => if name = openTag then .ofPlain text else .ofName name

def collectionTag (p : Properties) (default : Tag) : Tag :=
  match p.tag with
  | .none => default
  | some name => if name = openTag then default else .ofName name

end Properties

namespace Rule

def scalar (p : Properties) (text : String) (isPlain : Bool) : Rule NodeId := do
  let id ← place p.anchor
  complete id ⟨p.scalarTag text isPlain, .scalar text⟩

def list (p : Properties) (items : Rule (List NodeId)) : Rule NodeId := do
  let id ← place p.anchor
  complete id ⟨p.collectionTag .list, .list (← items)⟩

def record (p : Properties) (entries : Rule (List Entry)) : Rule NodeId := do
  let id ← place p.anchor
  complete id ⟨p.collectionTag .record, .record (← entries)⟩

def missing : Rule NodeId := scalar .none "" true

def anchor? : Rule (Option String) := do
  match ← peek with
  | some (.anchor name) =>
    pass
    return some name
  | _ => return none

def tag? : Rule (Option TagName) := do
  match ← peek with
  | some (.tag name) =>
    pass
    return some name
  | _ => return none

def properties : Rule Properties := do
  match ← anchor? with
  | some a => return ⟨some a, ← (← tag?).mapM fullName⟩
  | none =>
    match ← tag? with
    | none => return .none
    | some t =>
      let a ← anchor?
      return ⟨a, some (← fullName t)⟩

def endsEntry : Option Token → Bool
  | some .key | some .value | some .blockEnd => true
  | _ => false

def endsFlowEntry : Option Token → Bool
  | some .comma | some .flowSequenceEnd | some .flowMappingEnd => true
  | _ => false

mutual

def node : Nat → Bool → Rule NodeId
  | 0, _ => fail
  | depth + 1, inMapping => do
    match ← peek with
    | some (.reference name) =>
      pass
      anchored name
    | _ =>
      let p ← properties
      match ← peek with
      | some (.scalar text isPlain) =>
        pass
        scalar p text isPlain
      | some .blockSequence =>
        pass
        list p (blockItems depth)
      | some .blockMapping =>
        pass
        record p (blockEntries depth)
      | some .flowSequence =>
        pass
        list p (flowItems depth true)
      | some .flowMapping =>
        pass
        record p (flowEntries depth true)
      | t =>
        if inMapping && t == some .dash then list p (plainItems depth)
        else if p.isNone then fail
        else scalar p "" true

def blockItems : Nat → Rule (List NodeId)
  | 0 => fail
  | depth + 1 => do
    if ← accept .dash then
      let t ← peek
      let id ← if t == some .dash || t == some .blockEnd then missing else node depth false
      return id :: (← blockItems depth)
    else if ← accept .blockEnd then return []
    else fail

def plainItems : Nat → Rule (List NodeId)
  | 0 => fail
  | depth + 1 => do
    if ← accept .dash then
      let t ← peek
      let id ← if t == some .dash || endsEntry t then missing else node depth false
      return id :: (← plainItems depth)
    else return []

def blockPart : Nat → Rule NodeId
  | 0 => fail
  | depth + 1 => do
    if endsEntry (← peek) then missing else node depth true

def blockEntries : Nat → Rule (List Entry)
  | 0 => fail
  | depth + 1 => do
    if ← accept .key then
      let key ← blockPart depth
      let v ← if ← accept .value then blockPart depth else missing
      return (key, v) :: (← blockEntries depth)
    else if ← accept .blockEnd then return []
    else fail

def flowPart : Nat → Rule NodeId
  | 0 => fail
  | depth + 1 => do
    if endsFlowEntry (← peek) then missing else node depth false

def flowEntry : Nat → Rule Entry
  | 0 => fail
  | depth + 1 => do
    let key ← if (← peek) == some .value then missing else flowPart depth
    let v ← if ← accept .value then flowPart depth else missing
    return (key, v)

def flowItems : Nat → Bool → Rule (List NodeId)
  | 0, _ => fail
  | depth + 1, isFirst => do
    if ← accept .flowSequenceEnd then return []
    if !isFirst then
      if !(← accept .comma) then fail
      if ← accept .flowSequenceEnd then return []
    let id ← if ← accept .key then record .none (return [← flowEntry depth]) else node depth false
    return id :: (← flowItems depth false)

def flowEntries : Nat → Bool → Rule (List Entry)
  | 0, _ => fail
  | depth + 1, isFirst => do
    if ← accept .flowMappingEnd then return []
    if !isFirst then
      if !(← accept .comma) then fail
      if ← accept .flowMappingEnd then return []
    let e ← if ← accept .key then flowEntry depth else do
      let key ← node depth false
      pure (key, ← missing)
    return e :: (← flowEntries depth false)

end

def commonHandles : List (String × String) := [("!", "!"), ("!!", Tag.known)]

def directives : Nat → Bool → List (String × String) → Rule Unit
  | 0, _, _ => fail
  | steps + 1, hasVersion, handles => do
    match ← peek with
    | some (.directive d) =>
      pass
      match d with
      | .version major _ =>
        if hasVersion || major ≠ 1 then fail else directives steps true handles
      | .handle name start =>
        if (handles.lookup name).isSome then fail
        else directives steps hasVersion ((name, start) :: handles)
      | .other => directives steps hasVersion handles
    | _ => modify fun r ↦ { r with handles := handles ++ commonHandles }

def markedContent (steps : Nat) : Rule NodeId := do
  match ← peek with
  | none | some (.directive _) | some .documentStart | some .documentEnd => missing
  | some _ => node steps false

def firstDocument (steps : Nat) : Rule (Option NodeId) := do
  match ← peek with
  | none => return none
  | some (.directive _) | some .documentStart =>
    directives steps false []
    if ← accept .documentStart then return some (← markedContent steps) else fail
  | some _ => return some (← node steps false)

def lastEnd : Nat → Rule Unit
  | 0 => fail
  | steps + 1 => do
    if ← accept .documentEnd then lastEnd steps
    else if (← peek).isSome then
      directives steps false []
      let _ ← accept .documentStart
      fail

end Rule

/-- The nodes of a document, and which of them it stands for. -/
structure Document where
  graph : Graph
  root : NodeId
  completed : Array NodeId

/-- The only document of a text, if there is one. -/
def Document.ofTokens (ts : List Token) : Except ReadError (Option Document) := do
  let steps := 4 * ts.length + 4
  let start : Reading := ⟨ts, #[], [], Rule.commonHandles, #[]⟩
  let (root, r) ← (do
    match ← Rule.firstDocument steps with
    | none => return none
    | some root =>
      Rule.lastEnd steps
      return some root : Rule (Option NodeId)).run start
  return root.map fun root ↦ ⟨r.graph, root, r.completed⟩

end GroupSearch.Yaml
