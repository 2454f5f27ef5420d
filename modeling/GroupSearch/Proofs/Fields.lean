import GroupSearch.Document.Field
import GroupSearch.Proofs.Decision
import Mathlib.Logic.Function.Basic

namespace GroupSearch

/-- Whether an error is about the type of a value, or about a value that is missing or wrong. -/
inductive ErrorClass
  | type
  | value
  deriving DecidableEq, Repr

namespace Value

def shape? : Value → Option Shape
  | record _ => some .object
  | list _ => some .list
  | text _ => some .string
  | bool _ => some .boolean
  | int _ => some .integer
  | null | real _ | other _ => none

def nullable : Option String → Value
  | none => null
  | some s => text s

theorem nullable_injective : Function.Injective nullable := by
  intro s t h
  cases s <;> cases t <;> cases h <;> rfl

def Misfit (key : String) (shape : Shape) (v : Value) (e : FieldError) : Prop :=
  e = .mismatch key shape ∧ v.shape? ≠ some shape

def Undoes {α : Type} (write : α → Value) (key : String) (shape : Shape)
    (read : Value → Except FieldError α) : Prop :=
  ∀ v, Decides (fun a ↦ v = write a) (v.Misfit key shape) (read v)

section Readers

variable (key : String)

theorem undoes_asRecord : Undoes record key .object (asRecord key) := by
  intro v
  cases v with
  | record fields => exact .pureTo rfl fun _ h ↦ (record.inj h).symm
  | null | bool | int | real | other | text | list => exact .fail nofun ⟨rfl, nofun⟩

theorem undoes_asList : Undoes list key .list (asList key) := by
  intro v
  cases v with
  | list items => exact .pureTo rfl fun _ h ↦ (list.inj h).symm
  | null | bool | int | real | other | text | record => exact .fail nofun ⟨rfl, nofun⟩

theorem undoes_asText : Undoes text key .string (asText key) := by
  intro v
  cases v with
  | text s => exact .pureTo rfl fun _ h ↦ (text.inj h).symm
  | null | bool | int | real | other | list | record => exact .fail nofun ⟨rfl, nofun⟩

theorem undoes_asOptionalText : Undoes nullable key .string (asOptionalText key) := by
  intro v
  cases v with
  | null => exact .pureTo rfl fun s h ↦ (@nullable_injective none s h).symm
  | text s => exact .pureTo rfl fun t h ↦ (@nullable_injective (some s) t h).symm
  | bool | int | real | other | list | record =>
    exact .fail (fun a h ↦ by cases a <;> cases h) ⟨rfl, nofun⟩

theorem undoes_asBool : Undoes bool key .boolean (asBool key) := by
  intro v
  cases v with
  | bool b => exact .pureTo rfl fun _ h ↦ (bool.inj h).symm
  | null | int | real | other | text | list | record => exact .fail nofun ⟨rfl, nofun⟩

theorem undoes_asInt : Undoes int key .integer (asInt key) := by
  intro v
  cases v with
  | int n => exact .pureTo rfl fun _ h ↦ (int.inj h).symm
  | null | bool | real | other | text | list | record => exact .fail nofun ⟨rfl, nofun⟩

end Readers

/-- What the fields of a document have in the place that a key names. -/
inductive Place (root : Fields) : String → Option Value → Prop
  | top (name : String) : Place root name (field? root name)
  | field {key : String} {fields : Fields} (name : String) :
      Place root key (some (record fields)) → Place root s!"{key}.{name}" (field? fields name)
  | item {key : String} {items : List Value} (i : Nat) :
      Place root key (some (list items)) → Place root s!"{key}[{i}]" items[i]?

end Value

open Value

/-- An error is true of the place that it names. -/
inductive FieldError.At (root : Fields) : ErrorClass → FieldError → Prop
  | missing {key : String} : Place root key none → At root .value (.missing key)
  | mismatch {key : String} {shape : Shape} {v : Value} : Place root key (some v) →
      v.shape? ≠ some shape → At root .type (.mismatch key shape)

def FieldError.Fits (root : Fields) (e : FieldError) : Prop := ∃ cls, e.At root cls

namespace Value

variable {root fields : Fields} {name key : String} {v : Value}

theorem Place.behind {suffix : String} (hp : Place root key (some (record fields)))
    (hs : "." ++ name = suffix) : Place root s!"{key}{suffix}" (field? fields name) := by
  subst hs
  have h := Place.field name hp
  change Place root (key ++ "." ++ name) _ at h
  rwa [String.append_assoc] at h

theorem Place.named {key' : String} (hp : Place root key (some (record fields)))
    (hk : s!"{key}.{name}" = key') : Place root key' (field? fields name) := hk ▸ .field name hp

theorem Misfit.fits {shape : Shape} {e : FieldError} (h : v.Misfit key shape e)
    (hp : Place root key (some v)) : e.Fits root := by
  obtain ⟨rfl, hs⟩ := h
  exact ⟨_, .mismatch hp hs⟩

variable {α : Type} {shape : Shape} {write : α → Value} {read : Value → Except FieldError α}
  (hread : Undoes write key shape read)

include hread

theorem Undoes.decides (hp : Place root key (some v)) :
    Decides (fun a ↦ v = write a) (FieldError.Fits root) (read v) where
  ok := (hread v).ok
  error e he := ((hread v).error e he).fits hp

theorem Undoes.required (hp : Place root key (field? fields name)) :
    Decides (fun a ↦ field? fields name = some (write a)) (FieldError.Fits root)
      (required fields name key >>= read) := by
  unfold Value.required
  cases hf : field? fields name with
  | none =>
    rw [hf] at hp
    exact .fail nofun ⟨_, .missing hp⟩
  | some v =>
    rw [hf] at hp
    exact (hread.decides hp).congr fun a ↦ Option.some_inj.symm

theorem Undoes.optional {default : Value} {a : α} (hdefault : read default = .ok a)
    (hp : Place root key (field? fields name)) :
    Decides (fun a ↦ optional fields name default = write a) (FieldError.Fits root)
      (read (optional fields name default)) where
  ok := (hread _).ok
  error e he := by
    unfold Value.optional at he
    cases hf : field? fields name with
    | none =>
      rw [hf] at he
      cases hdefault.symm.trans he
    | some v =>
      rw [hf] at he hp
      exact (hread.decides hp).error e he

end Value

end GroupSearch
