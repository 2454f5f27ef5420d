import GroupSearch.Document.Yaml.Grammar
import GroupSearch.Document.Yaml.Links
import GroupSearch.Document.Yaml.Meaning

namespace GroupSearch.Yaml

def Graph.text (g : Graph) : Nat → NodeId → Except ReadError String
  | 0, _ => .error .misplaced
  | steps + 1, id =>
    match (g.node id).content with
    | .scalar s => .ok s
    | .list _ => .error .misplaced
    | .record entries =>
      match entries.find? fun e ↦ (g.node e.1).tag == .value with
      | some e => g.text steps e.2
      | none => .error .misplaced

/-- The value of a scalar. A point in time is not looked for behind the key of a mapping. -/
def Graph.scalar (g : Graph) (id : NodeId) : Except ReadError Value := do
  let n := g.node id
  match n.tag, n.content with
  | .unknown, _ | .merge, _ | .value, _ => throw .misplaced
  | tag, .scalar s => tag.read s
  | tag, _ =>
    let s ← g.text (g.size + 1) id
    if tag = .moment then throw (.scalar .mappedMoment) else tag.read s

structure Evaluation where
  graph : Graph
  /-- More than the number of entries of all mappings: enough steps to merge them. -/
  steps : Nat
  /-- The values of the scalars that have been met, and a value for every collection that has. -/
  met : Array (Option Value)
  /-- The collections that have been met, in order. -/
  collections : Array NodeId

namespace Evaluation

abbrev Step := Except ReadError Evaluation

def note (s : Evaluation) (id : NodeId) (v : Value) : Evaluation :=
  { s with met := s.met.setIfInBounds id (some v) }

def meet (s : Evaluation) (id : NodeId) : Step :=
  if (s.met[id]?.getD none).isSome then .ok s
  else if (s.graph.node id).tag.isCollection then
    .ok (note { s with collections := s.collections.push id } id .null)
  else do
    let v ← s.graph.scalar id
    return s.note id v

def meetEntry (s : Evaluation) (e : Entry) : Step := do
  let s ← s.meet e.1
  if (s.graph.node e.1).tag.isCollection then throw .misplaced
  s.meet e.2

/-- An item of a list of pairs, which holds one entry with any key. -/
def meetPair (s : Evaluation) (id : NodeId) : Step :=
  match s.graph.entries? id with
  | some [(key, v)] => do
    let s ← s.meet key
    s.meet v
  | _ => .error .misplaced

def meetEntries (s : Evaluation) (id : NodeId) : Step := do
  let s := { s with graph := ← s.graph.merge s.steps id }
  (s.graph.entries id).foldlM meetEntry s

def lookInto (s : Evaluation) (id : NodeId) : Step :=
  match (s.graph.node id).tag, (s.graph.node id).content with
  | .list, .list items => items.foldlM meet s
  | .pairs, .list items => items.foldlM meetPair s
  | .record, .record _ | .set, .record _ => s.meetEntries id
  | _, _ => .error .misplaced

/-- Looks into the collections from one of them on; every node is met once at most. -/
def lookIntoAll : Nat → Nat → Evaluation → Step
  | 0, _, s => .ok s
  | steps + 1, i, s =>
    match s.collections[i]? with
    | none => .ok s
    | some id => do
      let s ← s.lookInto id
      lookIntoAll steps (i + 1) s

/-- The fields of a mapping. Of equal keys the last counts, and keys that are no texts name no
field. -/
def fields (value : NodeId → Value) : List Entry → Value.Fields
  | [] => []
  | e :: entries =>
    match value e.1 with
    | .text key => Value.addField key (value e.2) (fields value entries)
    | _ => fields value entries

def assemble (g : Graph) (values : Array Value) (id : NodeId) : Value :=
  let value := fun i ↦ values[i]?.getD .null
  match (g.node id).tag, (g.node id).content with
  | .list, .list items => .list (items.map value)
  | .pairs, .list items => .list (items.map fun _ ↦ .other false)
  | .record, .record entries => .record (fields value entries)
  | .set, .record entries => .other entries.isEmpty
  | _, _ => value id

/-- Gives every node of a collection the value that it has with the values of its parts so far. -/
def round (g : Graph) (completed : List NodeId) (values : Array Value) : Array Value :=
  completed.foldl (fun values id ↦ values.setIfInBounds id (assemble g values id)) values

/-- One round is enough for a node that does not hold itself, since its parts are completed before.
Any other node is unrolled by one level a round. -/
def values (s : Evaluation) (completed : Array NodeId) : Nat → Array Value
  | 0 => s.met.map (·.getD .null)
  | rounds + 1 => round s.graph completed.toList (s.values completed rounds)

def key (s : Evaluation) (id : NodeId) : Key :=
  let spelling := (s.graph.text (s.graph.size + 1) id).toOption.getD ""
  .ofValue (s.graph.node id).tag spelling ((s.met[id]?.getD none).getD .null)

def links (s : Evaluation) (root : NodeId) : Links where
  root
  mappings := s.graph.map fun n ↦
    match n.tag, n.content with
    | .record, .record entries => entries.reverse.map fun e ↦ (s.key e.1, e.2)
    | _, _ => []

end Evaluation

/-- What a document holds: its value, and the links in it that show where a mapping holds itself. -/
structure Loaded where
  value : Value
  links : Links

def Document.loadTo (rounds : Nat) (d : Document) : Except ReadError Loaded := do
  let start : Evaluation :=
    ⟨d.graph, d.graph.entryCount + 1, Array.replicate d.graph.size none, #[]⟩
  let s ← start.meet d.root
  let s ← s.lookIntoAll (d.graph.size + 1) 0
  return ⟨(s.values d.completed rounds)[d.root]?.getD .null, s.links d.root⟩

end GroupSearch.Yaml
