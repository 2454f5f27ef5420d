namespace GroupSearch.Yaml

inductive Tag
  | null
  | bool
  | int
  | real
  | binary
  | moment
  | text
  | list
  | record
  | set
  /-- A list of mappings with one entry each. -/
  | pairs
  /-- The tag of keys whose mappings are merged into the mapping around them. -/
  | merge
  /-- The tag of keys for the value that a mapping stands for among scalars. -/
  | value
  | unknown
  deriving DecidableEq, Repr

namespace Tag

def known : String := "tag:yaml.org,2002:"

def names : List (String × Tag) := [
  ("null", null), ("bool", bool), ("int", int), ("float", real), ("binary", binary),
  ("timestamp", moment), ("str", text), ("seq", list), ("map", record), ("set", set),
  ("pairs", pairs), ("omap", pairs), ("merge", merge), ("value", value)]

def ofName (name : String) : Tag :=
  ((names.find? fun e ↦ known ++ e.1 == name).map Prod.snd).getD unknown

def isCollection : Tag → Bool
  | list | record | set | pairs => true
  | _ => false

end Tag

end GroupSearch.Yaml
