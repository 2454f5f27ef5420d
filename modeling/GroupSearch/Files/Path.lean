namespace GroupSearch

structure Path where
  /-- Empty, or the slashes that a path from the root starts with. -/
  root : String
  parts : List String
  deriving DecidableEq, Repr

namespace Path

def splitSlashes : List Char → List (List Char)
  | [] => [[]]
  | c :: cs =>
    match c, splitSlashes cs with
    | '/', names => [] :: names
    | c, [] => [[c]]
    | c, name :: names => (c :: name) :: names

def rootOf : List Char → String
  | '/' :: '/' :: '/' :: _ => "/"
  | '/' :: '/' :: _ => "//"
  | '/' :: _ => "/"
  | _ => ""

def ofString (s : String) : Path where
  root := rootOf s.toList
  parts := ((splitSlashes s.toList).filter fun n ↦ n ≠ [] ∧ n ≠ ['.']).map String.ofList

def toString (p : Path) : String :=
  if p.root = "" ∧ p.parts = [] then "." else p.root ++ "/".intercalate p.parts

instance : ToString Path := ⟨toString⟩

def hasNull (p : Path) : Bool := p.toString.toList.contains '\x00'

def join (p q : Path) : Path := if q.root = "" then ⟨p.root, p.parts ++ q.parts⟩ else q

end Path

end GroupSearch
