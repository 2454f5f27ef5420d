import GroupSearch.Proofs.Simulation
import Mathlib.Control.Monad.Basic

namespace GroupSearch

namespace Schema

variable {s t : Schema}

/-- The second schema comes from the first by extensions, any number of them. -/
inductive Extends : Schema → Schema → Prop
  | refl (s : Schema) : Extends s s
  | extend {s t u : Schema} {version : Int} {added : List IndexField} :
      Extends s t → t.extend version added = .ok u → Extends s u

theorem has_of_subset (h : s.fields ⊆ t.fields) (f : IndexField) (hf : s.has f = true) :
    t.has f = true := by
  simp only [has, List.contains_eq_mem, decide_eq_true_eq] at hf ⊢
  exact h hf

theorem Extends.has (h : Extends s t) (f : IndexField) (hf : s.has f = true) : t.has f = true := by
  induction h with
  | refl => exact hf
  | extend _ he ih =>
    rw [has_extend he, ih, Bool.true_or]

end Schema

variable {σ α β : Type}

/-- A reference is answered in the same way whenever it is looked up. -/
structure Lookups.Steady (l : Lookups σ) : Prop where
  accounts (reference : String) (a b : σ) :
    (runFrom a (l.accounts reference)).1 = (runFrom b (l.accounts reference)).1
  group (reference : String) (a b : σ) :
    (runFrom a (l.group reference)).1 = (runFrom b (l.group reference)).1
  suggestions (reference : String) (a b : σ) :
    (runFrom a (l.suggestions reference)).1 = (runFrom b (l.suggestions reference)).1

theorem Lookups.Steady.simulates {l : Lookups σ} (h : l.Steady) :
    l.Simulates (fun _ _ ↦ True) l where
  accounts reference a b _ := ⟨h.accounts reference a b, trivial⟩
  group reference := .map fun a b _ ↦ ⟨h.group reference a b, trivial⟩
  suggestions reference a b _ := ⟨h.suggestions reference a b, trivial⟩
  note _ _ _ _ := trivial

namespace Compiler

def Refused (r : Except Stop α) : Prop :=
  ∃ keyword, r = .error (.rejected (.unsupportedOperator keyword))

/-- Wherever they start, the second computation comes to what the first one comes to, unless the
first is refused an operator. -/
def Kept (x y : Build σ α) : Prop :=
  ∀ a b, Refused (runFrom a x).1 ∨ (runFrom a x).1 = (runFrom b y).1

theorem Refused.bind {x : Build σ α} {a : σ} (h : Refused (runFrom a x).1)
    (f : α → Build σ β) : Refused (runFrom a (x >>= f)).1 := by
  obtain ⟨keyword, h⟩ := h
  refine ⟨keyword, ?_⟩
  rw [runFrom_bind]
  rcases hx : runFrom a x with ⟨e | v, a'⟩ <;> rw [hx] at h <;> cases h
  rfl

theorem Kept.bind {x y : Build σ α} {f g : α → Build σ β} (h : Kept x y)
    (hf : ∀ v, Kept (f v) (g v)) : Kept (x >>= f) (y >>= g) := by
  intro a b
  rcases h a b with hr | hv
  · exact .inl (hr.bind f)
  · rw [runFrom_bind, runFrom_bind]
    rcases hx : runFrom a x with ⟨e | v, a'⟩ <;> rcases hy : runFrom b y with ⟨e' | w, b'⟩ <;>
      rw [hx, hy] at hv <;> cases hv
    · exact .inr rfl
    · exact hf v a' b'

theorem Kept.sequential : Sequential (ε := Stop) fun _ ↦ Kept (σ := σ) where
  pure _ _ _ := .inr rfl
  throw _ _ _ := .inr rfl
  bind := Kept.bind

variable {l : Lookups σ} {s s' : Schema}

section Gates

variable (hs : ∀ f, s.has f = true → s'.has f = true)

include hs

theorem gate_eq_or_reject (f : IndexField) (keyword : String) (x : Build σ α) :
    let refusal : Build σ α := reject (.unsupportedOperator keyword)
    (if s.has f then x else refusal) = (if s'.has f then x else refusal) ∨
      (if s.has f then x else refusal) = refusal := by
  intro refusal
  cases hf : s.has f with
  | false => exact .inr rfl
  | true =>
    rw [hs f hf]
    exact .inl rfl

/-- The schema takes part in a compilation by refusing operators and in no other way. -/
theorem apply_eq_or_reject (o : Operator) (value : String) :
    apply ⟨s, l⟩ o value = apply ⟨s', l⟩ o value ∨
      ∃ keyword, apply ⟨s, l⟩ o value = reject (.unsupportedOperator keyword) := by
  cases o with
  | uuid | description | inname | name | is | limit => exact .inl rfl
  | member => exact (gate_eq_or_reject hs .member "member" _).imp_right fun h ↦ ⟨_, h⟩
  | subgroup => exact (gate_eq_or_reject hs .subgroup "subgroup" _).imp_right fun h ↦ ⟨_, h⟩

theorem clause_eq_or_refused (cl : Clause) :
    clause ⟨s, l⟩ cl = clause ⟨s', l⟩ cl ∨ ∀ a, Refused (runFrom a (clause ⟨s, l⟩ cl)).1 := by
  cases cl with
  | term value => exact .inl rfl
  | operator keyword value =>
    change operator _ _ _ = operator _ _ _ ∨ ∀ a, Refused (runFrom a (operator _ _ _)).1
    unfold operator
    split
    · exact .inl rfl
    split
    · exact .inl rfl
    case h_2 o ho =>
      rcases apply_eq_or_reject (l := l) hs o value with he | ⟨k, hk⟩
      · refine .inl ?_
        rw [Option.getD_some, he]
        rfl
      · refine .inr fun a ↦ ⟨k, ?_⟩
        rw [Option.getD_some, hk]
        rfl

theorem clause_kept (hl : l.Steady) (cl : Clause) :
    Kept (clause ⟨s, l⟩ cl) (clause ⟨s', l⟩ cl) := by
  intro a b
  rcases clause_eq_or_refused (l := l) hs cl with he | hr
  · rw [he]
    exact .inr (clause_alike hl.simulates cl a b trivial).1
  · exact .inl (hr a)

theorem query_kept (hl : l.Steady) (text : Option String) :
    Kept (query ⟨s, l⟩ text) (query ⟨s', l⟩ text) := by
  unfold query
  split
  · exact Kept.sequential.throw _
  · exact Kept.sequential.throw _
  · exact Query.ofTokens_related Stop.rejected Kept.sequential (clause_kept hs hl) _

end Gates

/-- The second result repeats the first, which may be any but a refusal of an operator. -/
structure Survives (r r' : Except Defect Outcome) : Prop where
  predicate (p : Predicate) : r = .ok (.ok p) → r' = .ok (.ok p)
  failure (f : Failure) : r = .ok (.error f) → f.kind ≠ .unsupportedOperator → r' = .ok (.error f)
  defect (d : Defect) : r = .error d → r' = .error d

theorem survives_settled {r r' : Except Stop Predicate} (h : Refused r ∨ r = r') :
    Survives (settled r) (settled r') := by
  rcases h with ⟨keyword, rfl⟩ | rfl
  · refine ⟨nofun, ?_, nofun⟩
    intro f hf hk
    cases hf
    exact (hk rfl).elim
  · exact ⟨fun _ h ↦ h, fun _ h _ ↦ h, fun _ h ↦ h⟩

/-- What a query comes to under the first schema it comes to under the second as well, wherever the
two compilations start, as long as no operator is refused. -/
structure Upgrades (l : Lookups σ) (s s' : Schema) : Prop where
  parse (text : Option String) (a b : σ) :
    Survives (runFrom a (parse ⟨s, l⟩ text)).1 (runFrom b (parse ⟨s', l⟩ text)).1
  compile (text : Option String) (a b : σ) :
    Survives (runFrom a (compile ⟨s, l⟩ text)).1 (runFrom b (compile ⟨s', l⟩ text)).1

theorem upgrades_of_has (hs : ∀ f, s.has f = true → s'.has f = true) (hl : l.Steady) :
    Upgrades l s s' where
  parse text a b := by
    rw [parse_eq_settled, parse_eq_settled]
    exact survives_settled (query_kept hs hl text a b)
  compile text a b := by
    rw [compile_eq_settled, compile_eq_settled]
    exact survives_settled (query_kept hs hl text _ _)

/-- With steady lookups, a schema that has all fields of another one keeps the outcomes of all
queries, and so does every extension. -/
theorem outcomes_survive_upgrade (hl : l.Steady) :
    (∀ s s' : Schema, s.fields ⊆ s'.fields → Upgrades l s s') ∧
      ∀ s s' : Schema, s.Extends s' → Upgrades l s s' :=
  ⟨fun _ _ hs ↦ upgrades_of_has (Schema.has_of_subset hs) hl,
    fun _ _ hs ↦ upgrades_of_has hs.has hl⟩

def countingLookups : Lookups Nat where
  accounts reference := do
    modify (· + 1)
    return if reference = "ann" then [7] else []
  group _ := do
    modify (· + 1)
    return none
  suggestions name := do
    modify (· + 1)
    return if name = "staff" then [⟨"u1", "Staff"⟩] else []
  note _ n := n

/-- A predicate is kept by an extension, and so is a failure in front of an operator that only the
later schema has. -/
theorem outcomes_survive_upgrade_counting :
    let p : Predicate := .all (.leaf (.member 7)) [.not (.leaf (.subgroup "u1"))]
    let f : Failure := ⟨.malformedValue, "limit must be positive: 0"⟩
    countingLookups.Steady ∧ Schema.v4.Extends .v5 ∧ Schema.v2.fields ⊆ Schema.v5.fields ∧
      (runFrom 0 (parse ⟨.v4, countingLookups⟩ (some "member:ann -subgroup:staff"))).1 =
        .ok (.ok p) ∧
      (runFrom 3 (parse ⟨.v5, countingLookups⟩ (some "member:ann -subgroup:staff"))).1 =
        .ok (.ok p) ∧
      (runFrom 0 (compile ⟨.v2, countingLookups⟩ (some "limit:0 member:ann"))).1 =
        .ok (.error f) ∧
      (runFrom 0 (compile ⟨.v5, countingLookups⟩ (some "limit:0 member:ann"))).1 =
        .ok (.error f) := by
  intro p f
  have hl : countingLookups.Steady := ⟨fun _ _ _ ↦ rfl, fun _ _ _ ↦ rfl, fun _ _ _ ↦ rfl⟩
  have he : Schema.v4.Extends .v5 := .extend (.refl .v4) Schema.extend_v4
  have hs : Schema.v2.fields ⊆ Schema.v5.fields := by decide
  have hp : (runFrom 0 (parse ⟨.v4, countingLookups⟩ (some "member:ann -subgroup:staff"))).1 =
      .ok (.ok p) := by decide +kernel
  have hf : (runFrom 0 (compile ⟨.v2, countingLookups⟩ (some "limit:0 member:ann"))).1 =
      .ok (.error f) := by decide +kernel
  refine ⟨hl, he, hs, hp, ?_, hf, ?_⟩
  · exact (((outcomes_survive_upgrade hl).2 _ _ he).parse _ 0 3).predicate p hp
  · exact (((outcomes_survive_upgrade hl).1 _ _ hs).compile _ 0 0).failure f hf nofun

end Compiler

end GroupSearch
