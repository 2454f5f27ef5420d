import GroupSearch.Index.Schema

namespace GroupSearch

inductive Operator
  | uuid
  | description
  | inname
  | name
  | is
  | member
  | subgroup
  | limit
  deriving DecidableEq, Repr

namespace Operator

def keyword : Operator → String
  | uuid => "uuid"
  | description => "description"
  | inname => "inname"
  | name => "name"
  | is => "is"
  | member => "member"
  | subgroup => "subgroup"
  | limit => "limit"

def all : List Operator := [uuid, description, inname, name, is, member, subgroup, limit]

/-- A keyword kept for queries of earlier times; it is no operator. -/
def reserved : String := "owner"

def ofKeyword? (keyword : String) : Option Operator := all.find? fun o ↦ o.keyword == keyword

def requires : Operator → Option IndexField
  | member => some .member
  | subgroup => some .subgroup
  | _ => none

/-- An operator is available if the index has the field that it needs. -/
def isAvailable (o : Operator) (s : Schema) : Bool :=
  match o.requires with
  | none => true
  | some f => s.has f

theorem mem_all (o : Operator) : o ∈ all := by cases o <;> decide

theorem ofKeyword?_keyword (o : Operator) : ofKeyword? o.keyword = some o := by
  cases o <;> decide

theorem keyword_ne_reserved (o : Operator) : o.keyword ≠ reserved := by cases o <;> decide

theorem keyword_of_ofKeyword? {k : String} {o : Operator} (h : ofKeyword? k = some o) :
    o.keyword = k := by
  simpa using List.find?_some h

end Operator

end GroupSearch
