import GroupSearch.Formula
import GroupSearch.Query.Operand

namespace GroupSearch

structure Limit where
  count : Nat
  positive : 0 < count
  deriving DecidableEq, Repr

def Limit.ofInt? (n : Int) : Option Limit :=
  if h : 0 < n.toNat then some ⟨n.toNat, h⟩ else none

inductive Atom
  | field (name value : String)
  | member (account : Int)
  | subgroup (uuid : String)
  | visibleToAll
  | limit (cap : Limit)
  deriving DecidableEq, Repr

abbrev Predicate := Formula Atom

def matchesSubstring (name : String) : Bool := name == "inname" || name == "description"

def Atom.expression : Atom → String
  | field name value => name ++ ":" ++ Operand.quote value
  | member id => "member:" ++ toString id
  | subgroup uuid => "subgroup:" ++ Operand.quote uuid
  | visibleToAll => "is:visibletoall"
  | limit cap => "limit:" ++ toString cap.count

def Atom.limit? : Atom → Option Limit
  | limit cap => some cap
  | _ => none

namespace Predicate

mutual

def expression : Predicate → String
  | .leaf a => a.expression
  | .all p ps => "(" ++ expression p ++ expressions " AND " ps ++ ")"
  | .any p ps => "(" ++ expression p ++ expressions " OR " ps ++ ")"
  | .not p => "-" ++ expression p

def expressions (separator : String) : List Predicate → String
  | [] => ""
  | p :: ps => separator ++ expression p ++ expressions separator ps

end

/-- The smallest limit at any depth. -/
def effectiveLimit (p : Predicate) : Option Nat :=
  (p.leaves.filterMap fun a ↦ a.limit?.map Limit.count).min?

end Predicate

end GroupSearch
