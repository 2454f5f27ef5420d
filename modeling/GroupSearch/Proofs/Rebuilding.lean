import GroupSearch.Proofs.Building
import GroupSearch.Proofs.Rendering
import Mathlib.Data.Nat.Digits.Defs

namespace GroupSearch

def Atom.Expressible : Atom → Prop
  | .field name value => name ∈ fieldNames ∧ (matchesSubstring name = true → value ≠ "")
  | .limit cap => cap.count ≤ 2147483647
  | .member _ | .subgroup _ | .visibleToAll => True

theorem Atom.Expressible.writable {a : Atom} (h : a.Expressible) : a.Writable := by
  refine writable_of_fieldNames fun name value he ↦ ?_
  rw [he] at h
  exact h.1

namespace Lookups

variable {σ : Type}

/-- The reference leads to the uuid, of a group that is listed under it or else of the best
suggestion. -/
inductive Finds (l : Lookups σ) (s : σ) (reference uuid : String) : Prop
  | listed {g : Group} {t : σ} :
      runFrom s (l.group reference) = (.ok (some g), t) → g.uuid = uuid → Finds l s reference uuid
  | suggested {rs : List Reference} {r : Reference} {t u : σ} :
      runFrom s (l.group reference) = (.ok none, t) →
      runFrom t (l.suggestions reference) = (.ok rs, u) →
      bestSuggestion rs reference = some r → r.uuid = uuid → Finds l s reference uuid

/-- At all times the account or group of the atom is what its own reference is answered with. -/
def Knows (l : Lookups σ) : Atom → Prop
  | .member id => ∀ s, ∃ ids t,
      runFrom s (l.accounts (toString id)) = (.ok ids, t) ∧ ∀ i, i ∈ ids ↔ i = id
  | .subgroup uuid => ∀ s, l.Finds s uuid uuid
  | .field .. | .limit _ | .visibleToAll => True

def echoing : Lookups Unit where
  accounts reference := return (Text.integer? reference.toList).toList
  group reference := return some ⟨reference, reference, none, none, false, [], []⟩
  suggestions _ := return []
  note _ s := s

theorem echoing_knows (a : Atom) : echoing.Knows a := by
  cases a with
  | field | visibleToAll | limit => trivial
  | subgroup uuid => exact fun s ↦ .listed (t := s) rfl rfl
  | member id =>
    refine fun s ↦ ⟨[id], s, ?_, fun i ↦ List.mem_singleton⟩
    unfold echoing
    dsimp only
    rw [Text.integer?_integer]
    rfl

end Lookups

theorem Text.readInteger_natural {n : Nat} (h : n < 10 ^ 10) :
    readInteger (toString n).toList = .ok (some (n : Int)) := by
  have hlen : (Nat.toDigits 10 n).length ≤ 10 := Nat.toDigits_length 10 n 10 (by decide) h
  refine readInteger_eq_some_iff.2 ⟨integer?_natural n, ?_⟩
  rw [show (toString n).toList = Nat.toDigits 10 n from Nat.toList_repr]
  exact List.countP_le_length.trans (hlen.trans (by decide))

namespace Compiler

variable {σ : Type} (c : Compiler σ)

theorem limitTo_count {cap : Limit} (h : cap.count ≤ 2147483647) :
    limitTo (toString cap.count) = .ok (.leaf (.limit cap)) :=
  limitTo_eq_ok_iff.2 ⟨cap, rfl, Text.readInteger_natural (by omega), h⟩

theorem rebuilds_of_apply {a : Atom} {o : Operator} (ho : a.keyword = o.keyword)
    (h : ∀ s, ∃ t, runFrom s (c.apply o a.value) = (.ok (.leaf a), t)) : c.Rebuilds a := by
  intro s
  obtain ⟨t, ht⟩ := c.runFrom_operator o a.value s
  obtain ⟨u, hu⟩ := h t
  exact ⟨u, by rw [← hu, ← ht, ← ho]; rfl⟩

theorem rebuilds_limit {cap : Limit} (h : cap.count ≤ 2147483647) : c.Rebuilds (.limit cap) := by
  refine c.rebuilds_of_apply (o := .limit) rfl fun s ↦ ⟨s, ?_⟩
  change runFrom s (MonadExcept.ofExcept (limitTo (toString cap.count))) = _
  rw [limitTo_count h]
  rfl

theorem rebuilds_visibleToAll : c.Rebuilds .visibleToAll := by
  refine c.rebuilds_of_apply (o := .is) rfl fun s ↦ ⟨s, ?_⟩
  change runFrom s (ofExcept (propertyIs "visibletoall")) = _
  rw [propertyIs, if_pos (by decide)]
  rfl

theorem rebuilds_field {name value : String} (h : name ∈ Atom.fieldNames)
    (hv : matchesSubstring name = true → value ≠ "") : c.Rebuilds (.field name value) := by
  simp only [Atom.fieldNames, List.mem_cons, List.not_mem_nil, or_false] at h
  rcases h with rfl | rfl | rfl | rfl
  · exact c.rebuilds_of_apply (o := .uuid) rfl fun s ↦ ⟨s, rfl⟩
  · exact c.rebuilds_of_apply (o := .name) rfl fun s ↦ ⟨s, rfl⟩
  · refine c.rebuilds_of_apply (o := .inname) rfl fun s ↦ ⟨s, ?_⟩
    change runFrom s (Pure.pure (nameHas value)) = _
    rw [nameHas, if_neg (by simpa using hv rfl)]
    rfl
  · refine c.rebuilds_of_apply (o := .description) rfl fun s ↦ ⟨s, ?_⟩
    change runFrom s (ofExcept (descriptionHas value)) = _
    rw [descriptionHas, if_neg (by simpa using hv rfl)]
    rfl

theorem rebuilds_member {id : Int} (h : c.supports .member = true)
    (hl : ∀ s, ∃ ids t, runFrom s (c.lookups.accounts (toString id)) = (.ok ids, t) ∧
      idSet ids = [id]) : c.Rebuilds (.member id) := by
  refine c.rebuilds_of_apply (o := .member) rfl fun s ↦ ?_
  obtain ⟨ids, t, hids, hid⟩ := hl s
  refine ⟨t, ?_⟩
  change runFrom s (c.hasMember (toString id)) = _
  unfold hasMember
  rw [if_pos h, runFrom_bind, runFrom_ask_eq_ok.2 hids]
  simp only [hid]
  rfl

theorem runFrom_groupUuid {s : σ} {reference uuid : String}
    (h : c.lookups.Finds s reference uuid) :
    ∃ t, runFrom s (c.groupUuid reference) = (.ok uuid, t) := by
  unfold groupUuid
  cases h with
  | listed hg hu =>
    rw [runFrom_bind, runFrom_ask_eq_ok.2 hg, ← hu]
    exact ⟨_, rfl⟩
  | suggested hg hs hr hu =>
    rw [runFrom_bind, runFrom_ask_eq_ok.2 hg]
    dsimp only
    rw [runFrom_bind, runFrom_ask_eq_ok.2 hs]
    simp only [hr, ← hu]
    exact ⟨_, rfl⟩

theorem rebuilds_subgroup {uuid : String} (h : c.supports .subgroup = true)
    (hl : ∀ s, c.lookups.Finds s uuid uuid) : c.Rebuilds (.subgroup uuid) := by
  refine c.rebuilds_of_apply (o := .subgroup) rfl fun s ↦ ?_
  obtain ⟨t, hu⟩ := c.runFrom_groupUuid (hl s)
  refine ⟨t, ?_⟩
  change runFrom s (c.hasSubgroup uuid) = _
  unfold hasSubgroup
  rw [if_pos h, runFrom_bind, hu]
  rfl

theorem rebuilds_of_knows (hm : c.supports .member = true) (hg : c.supports .subgroup = true)
    {a : Atom} (ha : a.Expressible) (hk : c.lookups.Knows a) : c.Rebuilds a := by
  cases a with
  | field name value => exact c.rebuilds_field ha.1 ha.2
  | visibleToAll => exact c.rebuilds_visibleToAll
  | limit cap => exact c.rebuilds_limit ha
  | subgroup uuid => exact c.rebuilds_subgroup hg hk
  | member id =>
    refine c.rebuilds_member hm fun s ↦ ?_
    obtain ⟨ids, t, hids, hid⟩ := hk s
    exact ⟨ids, t, hids, idSet_eq_singleton hid⟩

/-- Any predicate over known fields and limits of 32 bits, however its connectives are nested, is
written as a query that compiles to it, up to single operands, wherever its accounts and groups are
what their references are answered with. -/
theorem expression_compiles_back (hm : c.schema.has .member = true)
    (hg : c.schema.has .subgroup = true) (p : Predicate) (hp : ∀ a ∈ p.leaves, a.Expressible)
    (hk : ∀ a ∈ p.leaves, c.lookups.Knows a) (s : σ) :
    (runFrom s (c.query (some p.expression))).1 = .ok p.collapse := by
  have hw : ∀ a ∈ p.leaves, a.Writable := fun a ha ↦ (hp a ha).writable
  have hr : ∀ a ∈ p.leaves, c.Rebuilds a := fun a ha ↦ c.rebuilds_of_knows hm hg (hp a ha) (hk a ha)
  obtain ⟨t, ht⟩ := c.query_expression p hw hr s
  rw [ht]

/-- Single operands next to each other, a double negation, and a value with a quote. -/
theorem expression_compiles_back_nested :
    let p : Predicate := .not (.not (.all (.any (.leaf (.field "inname" "a \"b")) [])
      [.all (.leaf (.member (-5))) [.all (.leaf (.limit ⟨3, by decide⟩)) []],
        .leaf (.subgroup "(u")]))
    (∀ a ∈ p.leaves, a.Expressible) ∧ (∀ a ∈ p.leaves, Lookups.echoing.Knows a) ∧
      (runFrom () (query ⟨.v5, Lookups.echoing⟩ (some p.expression))).1 = .ok
        (.not (.not (.all (.leaf (.field "inname" "a \"b"))
          [.all (.leaf (.member (-5))) [.leaf (.limit ⟨3, by decide⟩)],
            .leaf (.subgroup "(u")]))) := by
  intro p
  have hp : ∀ a ∈ p.leaves, a.Expressible := by
    simp [p, Formula.leaves, Formula.leavesAll, Atom.Expressible, Atom.fieldNames]
  have hk : ∀ a ∈ p.leaves, Lookups.echoing.Knows a := fun a _ ↦ Lookups.echoing_knows a
  exact ⟨hp, hk, expression_compiles_back ⟨.v5, Lookups.echoing⟩ rfl rfl p hp hk ()⟩

end Compiler

end GroupSearch
