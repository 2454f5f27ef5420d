import GroupSearch.Directory.Record
import GroupSearch.Document.Field
import GroupSearch.Text.CaseFold

namespace GroupSearch

inductive DirectoryError
  | field (error : FieldError)
  | notPositive (key : String)
  | duplicate (key value : String)
  deriving DecidableEq, Repr

def DirectoryError.message : DirectoryError → String
  | field e => e.message
  | notPositive key => s!"{key} must be positive"
  | duplicate key value => s!"{key} has duplicate value: {value}"

namespace Directory

open Value

def reading {α : Type} (r : Except FieldError α) : Except DirectoryError α :=
  r.mapError .field

def readItems {α ε : Type} (read : String → Value → Except ε α) (key : String) :
    Nat → List Value → Except ε (List α)
  | _, [] => .ok []
  | i, v :: vs => do
    let a ← read s!"{key}[{i}]" v
    let as ← readItems read key (i + 1) vs
    return a :: as

def listField (fields : Fields) (name : String) : Except FieldError (List Value) :=
  match field? fields name with
  | none | some null => .ok []
  | some v => v.asList name

def readAccount (key : String) (v : Value) : Except DirectoryError Account := do
  let fields ← reading (v.asRecord key)
  let id ← reading (required fields "id" s!"{key}.id" >>= asInt s!"{key}.id")
  if id ≤ 0 then throw (.notPositive s!"{key}.id")
  return {
    id
    username := ← reading ((optional fields "username" null).asOptionalText s!"{key}.username")
    fullName := ← reading ((optional fields "full_name" null).asOptionalText s!"{key}.full_name")
    email := ← reading ((optional fields "email" null).asOptionalText s!"{key}.email")
    active := ← reading ((optional fields "active" (bool true)).asBool s!"{key}.active") }

def readGroup (key : String) (v : Value) : Except FieldError Group := do
  let fields ← v.asRecord key
  let members ← (optional fields "members" (list [])).asList s!"{key}.members"
  let subgroups ← (optional fields "subgroups" (list [])).asList s!"{key}.subgroups"
  return {
    uuid := ← required fields "uuid" s!"{key}.uuid" >>= asText s!"{key}.uuid"
    name := ← required fields "name" s!"{key}.name" >>= asText s!"{key}.name"
    description := ← (optional fields "description" null).asOptionalText s!"{key}.description"
    ownerUuid := ← (optional fields "owner_uuid" null).asOptionalText s!"{key}.owner_uuid"
    visibleToAll :=
      ← (optional fields "visible_to_all" (bool false)).asBool s!"{key}.visible_to_all"
    members := ← readItems asInt s!"{key}.members" 0 members
    subgroups := ← readItems asText s!"{key}.subgroups" 0 subgroups }

def repeated? {α : Type} [DecidableEq α] (seen : List α) : List α → Option α
  | [] => none
  | a :: as => if a ∈ seen then some a else repeated? (a :: seen) as

def checkDistinct {α : Type} [DecidableEq α] [ToString α] (key : String) (values : List α) :
    Except DirectoryError Unit :=
  match repeated? [] values with
  | none => .ok ()
  | some a => .error (.duplicate key (toString a))

def ofValue (v : Value) : Except DirectoryError Directory := do
  let fields ← reading (v.asRecord "directory root")
  let accounts ← readItems readAccount "accounts" 0 (← reading (listField fields "accounts"))
  let groups ← reading (listField fields "groups" >>= readItems readGroup "groups" 0)
  checkDistinct "accounts.id" (accounts.map Account.id)
  checkDistinct "groups.uuid" (groups.map Group.uuid)
  checkDistinct "groups.name" (groups.map fun g ↦ Text.fold g.name)
  return ⟨accounts, groups⟩

theorem repeated?_eq_none {α : Type} [DecidableEq α] {seen values : List α} :
    repeated? seen values = none ↔ values.Nodup ∧ ∀ a ∈ values, a ∉ seen := by
  induction values generalizing seen with
  | nil => simp [repeated?]
  | cons a as ih =>
    by_cases h : a ∈ seen
    · simp [repeated?, h]
    · simp only [repeated?, if_neg h, ih, List.nodup_cons, List.mem_cons]
      grind

end Directory

end GroupSearch
