import GroupSearch.Document.Value
import GroupSearch.Document.Yaml.Tag

namespace GroupSearch.Yaml

/-- A key of a mapping. Keys are equal as their values are: a truth value is a whole number, and so
is a number with a point and nothing behind it. -/
inductive Key
  | null
  | whole (n : Int)
  | real (x : Double)
  | text (s : String)
  /-- A point in time, or bytes, by their spelling. -/
  | other (tag : Tag) (spelling : String)
  deriving DecidableEq, Repr

def Key.ofValue (tag : Tag) (spelling : String) : Value → Key
  | .null => null
  | .bool b => whole (if b then 1 else 0)
  | .int n => whole n
  | .real x =>
    match x.whole? with
    | some n => whole n
    | none => real x
  | .text s => text s
  | .other _ | .list _ | .record _ => other tag spelling

/-- How keys lead from mapping to mapping. A mapping may lead to itself, so they are told apart by
their places. -/
structure Links where
  root : Nat
  /-- The entries of the mapping at every place, the last one first. -/
  mappings : Array (List (Key × Nat))

namespace Links

def none : Links := ⟨0, #[]⟩

def entries (l : Links) (i : Nat) : List (Key × Nat) := l.mappings[i]?.getD []

def next (l : Links) (i : Nat) (key : Key) : Option Nat := (l.entries i).lookup key

/-- Whether so many keys, one behind the other, lead on in both. -/
def shares (a b : Links) : Nat → Nat → Nat → Bool
  | 0, _, _ => true
  | n + 1, i, j =>
    (a.entries i).any fun e ↦
      (a.next i e.1).any fun i' ↦ (b.next j e.1).any fun j' ↦ shares a b n i' j'

/-- Whether keys lead on in both without an end. There are no more pairs of places than the product,
so that a path with more keys comes to one of them twice. -/
def endless (a b : Links) : Bool :=
  shares a b (a.mappings.size * b.mappings.size + 1) a.root b.root

end Links

end GroupSearch.Yaml
