import GroupSearch.Text.Quoted

namespace GroupSearch

inductive IndexField
  | id
  | uuid
  | ownerUuid
  | name
  | namePart
  | description
  | visibleToAll
  | createdOn
  | member
  | subgroup
  | refState
  deriving DecidableEq, Repr

namespace IndexField

def label : IndexField → String
  | id => "id"
  | uuid => "uuid"
  | ownerUuid => "owner_uuid"
  | name => "name"
  | namePart => "name_part"
  | description => "description"
  | visibleToAll => "is_visible_to_all"
  | createdOn => "created_on"
  | member => "member"
  | subgroup => "subgroup"
  | refState => "ref_state"

def all : List IndexField :=
  [createdOn, description, id, visibleToAll, member, name, namePart, ownerUuid, refState, subgroup,
    uuid]

theorem mem_all (f : IndexField) : f ∈ all := by cases f <;> decide

def ofLabel? (s : String) : Option IndexField := all.find? fun f ↦ f.label == s

end IndexField

structure Schema where
  version : Int
  fields : List IndexField
  deriving Repr

inductive SchemaError
  | unknownVersion (version : Int)
  | notIncreasing (version current : Int)
  | unknownField (label : String)
  deriving DecidableEq, Repr

def SchemaError.message : SchemaError → String
  | unknownField l => s!"{Text.quoted l} is not a valid GroupField"
  | unknownVersion v => s!"Unknown group index schema version: {v}"
  | notIncreasing v w => s!"Schema version must increase: {v} <= {w}"

def IndexField.ofLabel (s : String) : Except SchemaError IndexField :=
  match ofLabel? s with
  | some f => .ok f
  | none => .error (.unknownField s)

namespace Schema

def has (s : Schema) (f : IndexField) : Bool := s.fields.contains f

def listing (s : Schema) : List IndexField := IndexField.all.filter s.has

def extend (s : Schema) (version : Int) (added : List IndexField) : Except SchemaError Schema :=
  if version ≤ s.version then .error (.notIncreasing version s.version)
  else .ok ⟨version, s.fields ++ added⟩

def v2 : Schema :=
  ⟨2, [.id, .uuid, .ownerUuid, .name, .namePart, .description, .visibleToAll]⟩

def v3 : Schema := ⟨3, v2.fields ++ [.createdOn]⟩

def v4 : Schema := ⟨4, v3.fields ++ [.member, .subgroup]⟩

def v5 : Schema := ⟨5, v4.fields ++ [.refState]⟩

def latest : Schema := v5

def known : List Schema := [v2, v3, v4, v5]

def ofVersion? (version : Int) : Except SchemaError Schema :=
  match known.find? fun s ↦ s.version == version with
  | some s => .ok s
  | none => .error (.unknownVersion version)

theorem has_extend {s t : Schema} {v : Int} {added : List IndexField}
    (h : s.extend v added = .ok t) (f : IndexField) : t.has f = (s.has f || added.contains f) := by
  unfold extend at h
  split at h
  · cases h
  · cases h
    simp only [has, List.contains_eq_mem, List.mem_append, Bool.decide_or]

theorem extend_v4 : v4.extend 5 [.refState] = .ok v5 := rfl

end Schema

end GroupSearch
