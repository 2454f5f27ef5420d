import GroupSearch.Document.Yaml.Fault
import GroupSearch.Document.Yaml.Tag

namespace GroupSearch.Yaml

abbrev NodeId := Nat

abbrev Entry := NodeId × NodeId

inductive Content
  | scalar (text : String)
  | list (items : List NodeId)
  | record (entries : List Entry)
  deriving DecidableEq, Repr

structure Node where
  tag : Tag
  content : Content
  deriving DecidableEq, Repr

def Node.empty : Node := ⟨.null, .scalar ""⟩

abbrev Graph := Array Node

namespace Graph

def node (g : Graph) (id : NodeId) : Node := g[id]?.getD .empty

def entries? (g : Graph) (id : NodeId) : Option (List Entry) :=
  match (g.node id).content with
  | .record entries => some entries
  | _ => none

def entries (g : Graph) (id : NodeId) : List Entry := (g.entries? id).getD []

def setEntries (g : Graph) (id : NodeId) (entries : List Entry) : Graph :=
  g.setIfInBounds id { g.node id with content := .record entries }

def entryCount (g : Graph) : Nat :=
  g.foldl (fun n node ↦ match node.content with
    | .record entries => n + entries.length
    | _ => n) 0

def isMerge (g : Graph) (e : Entry) : Bool := (g.node e.1).tag == .merge

def nameKeys (g : Graph) (entries : List Entry) : Graph :=
  entries.foldl (fun g e ↦
    if (g.node e.1).tag = .value then g.setIfInBounds e.1 { g.node e.1 with tag := .text } else g) g

def sources (g : Graph) (id : NodeId) : List NodeId :=
  match (g.node id).content with
  | .list items => items
  | _ => [id]

/-- Lays the mappings behind merge keys into the mapping around them, in front of its own entries,
which count more; of several mappings behind one key the first counts most. The mappings themselves
are treated so before. Every step takes an entry with a merge key away, so one step more than there
are entries is enough. -/
def merge : Nat → Graph → NodeId → Except ReadError Graph
  | 0, g, _ => .ok g
  | steps + 1, g, id =>
    match g.entries? id with
    | none => .error .misplaced
    | some entries =>
      match entries.span (!g.isMerge ·) with
      | (_, []) => .ok (g.nameKeys entries)
      | (before, e :: after) => do
        let sources := g.sources e.2
        let g ← sources.foldlM (merge steps) (g.setEntries id (before ++ after))
        let merged := sources.reverse.flatMap g.entries
        let g ← merge steps g id
        return g.setEntries id (merged ++ g.entries id)

end Graph

end GroupSearch.Yaml
