import GroupSearch.Proofs.Rebuilding
import GroupSearch.Proofs.View

namespace GroupSearch

/-- What is known of an atom that was compiled over a view of a directory. -/
def Atom.Resolved (schema : Schema) (v : View) : Atom → Prop
  | .field name value => name ∈ fieldNames ∧ (matchesSubstring name = true → value ≠ "")
  | .member id => schema.has .member = true ∧
    ∃ d, v = .ok d ∧ ∃ a ∈ d.accounts, a.active = true ∧ a.id = id
  | .subgroup uuid => schema.has .subgroup = true ∧ ∃ d, v = .ok d ∧ ∃ g ∈ d.groups, g.uuid = uuid
  | .visibleToAll => True
  | .limit cap => cap.count ≤ 2147483647

/-- All atoms are resolved, and no operand stands alone. -/
structure Predicate.Sound (schema : Schema) (v : View) (p : Predicate) : Prop where
  collapse_eq : p.collapse = p
  resolved : ∀ a ∈ p.leaves, a.Resolved schema v

variable {schema : Schema} {v : View}

namespace Predicate

theorem Sound.leaf {a : Atom} (h : a.Resolved schema v) : Sound schema v (.leaf a) :=
  ⟨rfl, List.forall_mem_singleton.2 h⟩

theorem collapseAll_eq {ps : List Predicate} (h : ∀ p ∈ ps, p.collapse = p) :
    Formula.collapseAll ps = ps := by
  induction ps with
  | nil => rfl
  | cons p ps ih =>
    rw [List.forall_mem_cons] at h
    rw [Formula.collapseAll, h.1, ih h.2]

theorem Sound.resolved_all {p : Predicate} {ps : List Predicate} (h : Sound schema v p)
    (hs : ∀ q ∈ ps, Sound schema v q) :
    ∀ a ∈ p.leaves ++ Formula.leavesAll ps, a.Resolved schema v := by
  rw [List.forall_mem_append, Formula.leavesAll_eq_flatMap]
  refine ⟨h.resolved, fun a ha ↦ ?_⟩
  obtain ⟨q, hq, ha⟩ := List.mem_flatMap.1 ha
  exact (hs q hq).resolved a ha

theorem handedOn_sound : Grammar.HandedOn (Sound schema v) where
  any h hs := by
    refine ⟨?_, h.resolved_all hs⟩
    rw [Formula.collapse, h.collapse_eq, collapseAll_eq fun r hr ↦ (hs r hr).collapse_eq]
    rfl
  all h hs := by
    refine ⟨?_, h.resolved_all hs⟩
    rw [Formula.collapse, h.collapse_eq, collapseAll_eq fun r hr ↦ (hs r hr).collapse_eq]
    rfl
  not h := ⟨congrArg Formula.not h.collapse_eq, h.resolved⟩

theorem Sound.disj {p : Predicate} {ps : List Predicate} (h : Sound schema v p)
    (hs : ∀ q ∈ ps, Sound schema v q) : Sound schema v (.disj p ps) := by
  cases ps with
  | nil => exact h
  | cons q qs => exact handedOn_sound.any h hs

end Predicate

namespace Directory

variable {accounts : List Account} {groups : List Group}

theorem mem_activeIds {p : Account → Bool} {id : Int} :
    id ∈ activeIds accounts p ↔ ∃ a ∈ accounts, (a.active = true ∧ p a = true) ∧ a.id = id := by
  simp only [activeIds, mem_idSet, List.mem_map, List.mem_filter, Bool.and_eq_true, and_assoc]

theorem exists_of_mem_activeIds {p : Account → Bool} {id : Int} (h : id ∈ activeIds accounts p) :
    ∃ a ∈ accounts, a.active = true ∧ a.id = id := by
  obtain ⟨a, ha, hp, hid⟩ := mem_activeIds.1 h
  exact ⟨a, ha, hp.1, hid⟩

/-- A number finds the accounts that have it for an id, unless it is too long and none has it. -/
theorem byNumber_cases (accounts : List Account) (n digits : Nat) :
    byNumber accounts n digits = .byId (activeIds accounts fun a ↦ a.id == (n : Int)) ∨
      activeIds accounts (fun a ↦ a.id == (n : Int)) = [] ∧ Text.mostDigits < digits ∧
        byNumber accounts n digits = .overlong ⟨digits⟩ := by
  unfold byNumber
  split
  case h_1 h =>
    rw [h]
    cases ho : Text.overlong? digits with
    | none => exact .inl rfl
    | some o =>
      obtain ⟨hlt, rfl⟩ := Text.overlong?_eq_some_iff.1 ho
      exact .inr ⟨rfl, hlt, rfl⟩
  case h_2 => exact .inl rfl

/-- Whatever rule applies, only active accounts are found. -/
theorem exists_of_mem_resolveTrimmed {reference : String} {ids : List Int} {id : Int}
    (h : (resolveTrimmed accounts reference).ids = .ok ids) (hid : id ∈ ids) :
    ∃ a ∈ accounts, a.active = true ∧ a.id = id := by
  unfold resolveTrimmed at h
  split at h
  · next n _ =>
    rcases byNumber_cases accounts n reference.length with hr | ⟨-, -, hr⟩ <;>
      rw [hr] at h <;> cases h
    exact exists_of_mem_activeIds hid
  split at h
  · cases h
    exact exists_of_mem_activeIds hid
  dsimp only at h
  split at h
  · cases h
    exact exists_of_mem_activeIds hid
  split at h
  · cases h
    unfold byFullName at hid
    split at hid <;> exact exists_of_mem_activeIds hid
  · cases h
    exact exists_of_mem_activeIds hid

theorem exists_of_mem_findAccounts {reference : String} {ids : List Int} {id : Int}
    (h : findAccounts accounts reference = .ok ids) (hid : id ∈ ids) :
    ∃ a ∈ accounts, a.active = true ∧ a.id = id := by
  unfold findAccounts resolve at h
  split at h
  · cases h
    cases hid
  · exact exists_of_mem_resolveTrimmed h hid

theorem exists_of_mem_suggest {bound : Int} {name : String} {r : Reference}
    (h : r ∈ suggest groups bound name) : ∃ g ∈ groups, g.reference = r := by
  unfold suggest at h
  dsimp only at h
  split at h
  · cases h
  · obtain ⟨g, hg, hr⟩ := List.mem_map.1 h
    have hf := List.mem_mergeSort.1 (List.mem_of_mem_take hg)
    exact ⟨g, (List.mem_filter.1 hf).1, hr⟩

theorem exists_of_get? {uuid : String} {g : Group} (h : GroupIndex.get? ⟨groups⟩ uuid = some g) :
    g ∈ groups ∧ g.uuid = uuid := by
  unfold GroupIndex.get? at h
  exact ⟨List.mem_reverse.1 (List.mem_of_find?_eq_some h), by simpa using List.find?_some h⟩

end Directory

theorem mem_of_bestSuggestion {rs : List Reference} {wanted : String} {r : Reference}
    (h : bestSuggestion rs wanted = some r) : r ∈ rs := by
  unfold bestSuggestion at h
  split at h
  · cases h
    exact List.mem_singleton.2 rfl
  · exact List.mem_of_find?_eq_some h

namespace View

theorem exists_of_accounts {reference : String} {ids : List Int}
    (h : v.accounts reference = .ok ids) :
    ∀ id ∈ ids, ∃ d, v = .ok d ∧ ∃ a ∈ d.accounts, a.active = true ∧ a.id = id := by
  intro id hid
  unfold accounts at h
  split at h
  · cases h
    cases hid
  · cases v with
    | error e => cases h
    | ok d => exact ⟨d, rfl, Directory.exists_of_mem_findAccounts (mapError_eq_ok.1 h) hid⟩

theorem exists_of_group {uuid : String} {g : Group} (h : v.group uuid = .ok (some g)) :
    ∃ d, v = .ok d ∧ g ∈ d.groups ∧ g.uuid = uuid := by
  cases v with
  | error e => cases h
  | ok d => exact ⟨d, rfl, Directory.exists_of_get? (Except.ok.inj h)⟩

theorem exists_of_suggestions {bound : Int} {name : String} {rs : List Reference}
    (h : v.suggestions bound name = .ok rs) :
    ∀ r ∈ rs, ∃ d, v = .ok d ∧ ∃ g ∈ d.groups, g.reference = r := by
  intro r hr
  unfold suggestions at h
  split at h
  · cases h
    cases hr
  · cases v with
    | error e => cases h
    | ok d =>
      obtain rfl := Except.ok.inj h
      exact ⟨d, rfl, Directory.exists_of_mem_suggest hr⟩

end View

namespace Compiler

open Predicate

variable {p : Predicate} {value : String}

theorem sound_uuidIs (value : String) : Sound schema v (uuidIs value) :=
  .leaf ⟨by simp [Atom.fieldNames], nofun⟩

theorem sound_nameIs (value : String) : Sound schema v (nameIs value) :=
  .leaf ⟨by simp [Atom.fieldNames], nofun⟩

theorem sound_nameHas (value : String) : Sound schema v (nameHas value) := by
  unfold nameHas
  split
  case isTrue => exact sound_nameIs value
  case isFalse hv => exact .leaf ⟨by simp [Atom.fieldNames], fun _ ↦ by simpa using hv⟩

theorem sound_descriptionHas {value : Option String} (h : descriptionHas value = .ok p) :
    Sound schema v p := by
  unfold descriptionHas at h
  split at h
  · cases h
  · split at h <;> cases h
    case h_2.isFalse.refl hv => exact .leaf ⟨by simp [Atom.fieldNames], fun _ ↦ by simpa using hv⟩

theorem sound_propertyIs (h : propertyIs value = .ok p) : Sound schema v p := by
  unfold propertyIs at h
  split at h <;> cases h
  exact .leaf trivial

theorem sound_limitTo {value : Option String} (h : limitTo value = .ok p) : Sound schema v p := by
  cases value with
  | none => cases h
  | some value =>
    obtain ⟨cap, rfl, -, hle⟩ := limitTo_eq_ok_iff.1 h
    exact .leaf hle

theorem sound_hasMember {s s' : Unit}
    (h : runFrom s ((v.compiler schema).hasMember value) = (.ok p, s')) : Sound schema v p := by
  unfold hasMember at h
  split at h
  case isFalse => cases h
  case isTrue hs =>
    obtain ⟨ids, t, hids, h⟩ := runFrom_bind_eq_ok.1 h
    rw [runFrom_ask_eq_ok, View.compiler, View.lookups_accounts] at hids
    have ha := (Prod.mk.inj hids).1
    have hm (id : Int) (hid : id ∈ idSet ids) : Sound schema v (.leaf (.member id)) :=
      .leaf ⟨hs, View.exists_of_accounts ha id (mem_idSet.1 hid)⟩
    split at h
    · cases h
    case h_2 id rest hset =>
      cases h
      rw [hset, List.forall_mem_cons] at hm
      refine hm.1.disj fun q hq ↦ ?_
      obtain ⟨i, hi, rfl⟩ := List.mem_map.1 hq
      exact hm.2 i hi

theorem sound_hasSubgroup {s s' : Unit}
    (h : runFrom s ((v.compiler schema).hasSubgroup value) = (.ok p, s')) : Sound schema v p := by
  unfold hasSubgroup at h
  split at h
  case isFalse => cases h
  case isTrue hs =>
    obtain ⟨uuid, t, hu, h⟩ := runFrom_bind_eq_ok.1 h
    cases h
    refine .leaf ⟨hs, ?_⟩
    unfold groupUuid at hu
    obtain ⟨found, t', hf, hu⟩ := runFrom_bind_eq_ok.1 hu
    rw [runFrom_ask_eq_ok, View.compiler, View.lookups_group] at hf
    have hg := (Prod.mk.inj hf).1
    cases found with
    | some g =>
      cases hu
      obtain ⟨d, rfl, hg, -⟩ := View.exists_of_group hg
      exact ⟨d, rfl, g, hg, rfl⟩
    | none =>
      obtain ⟨rs, t'', hr, hu⟩ := runFrom_bind_eq_ok.1 hu
      rw [runFrom_ask_eq_ok, View.compiler, View.lookups_suggestions] at hr
      have hs := (Prod.mk.inj hr).1
      split at hu
      · cases hu
      case h_2 r hbest =>
        obtain ⟨_, _, -, hu⟩ := runFrom_bind_eq_ok.1 hu
        cases hu
        obtain ⟨d, hd, g, hg, rfl⟩ := View.exists_of_suggestions hs r (mem_of_bestSuggestion hbest)
        exact ⟨d, hd, g, hg, rfl⟩

theorem sound_term (value : String) : Sound schema v (term value) := by
  unfold term
  refine (sound_uuidIs value).disj fun q hq ↦ ?_
  rcases List.mem_append.1 hq with hq | hq
  · rcases List.mem_cons.1 hq with rfl | hq
    · exact sound_nameIs value
    · obtain rfl := List.mem_singleton.1 hq
      exact sound_nameHas value
  · cases hd : descriptionHas value with
    | error cause =>
      rw [hd] at hq
      cases hq
    | ok r =>
      rw [hd] at hq
      obtain rfl := List.mem_singleton.1 hq
      exact sound_descriptionHas hd

theorem sound_apply {o : Operator} {s s' : Unit}
    (h : runFrom s ((v.compiler schema).apply o value) = (.ok p, s')) : Sound schema v p := by
  cases o with
  | uuid =>
    cases h
    exact sound_uuidIs value
  | description => exact sound_descriptionHas (runFrom_ofExcept_eq_ok.1 h).1
  | inname =>
    obtain rfl := Except.ok.inj (Prod.mk.inj h).1
    exact sound_nameHas value
  | name =>
    cases h
    exact sound_nameIs value
  | is => exact sound_propertyIs (runFrom_ofExcept_eq_ok.1 h).1
  | member => exact sound_hasMember h
  | subgroup => exact sound_hasSubgroup h
  | limit => exact sound_limitTo (runFrom_liftExcept_eq_ok.1 h).1

theorem sound_clause {cl : Clause} {s s' : Unit}
    (h : runFrom s ((v.compiler schema).clause cl) = (.ok p, s')) : Sound schema v p := by
  cases cl with
  | term value =>
    obtain rfl := Except.ok.inj (Prod.mk.inj h).1
    exact sound_term value
  | operator keyword value =>
    obtain ⟨o, u, -, h⟩ := apply_of_operator h
    exact sound_apply h

theorem sound_of_mapM {cls : List Clause} {vs : List Predicate} {s s' : Unit}
    (h : runFrom s (cls.mapM (v.compiler schema).clause) = (.ok vs, s')) :
    ∀ q ∈ vs, Sound schema v q := by
  induction cls generalizing vs s with
  | nil =>
    obtain ⟨rfl, -⟩ := runFrom_mapM_nil_eq_ok.1 h
    exact nofun
  | cons cl cls ih =>
    obtain ⟨q, ws, t, rfl, hq, hws⟩ := runFrom_mapM_cons_eq_ok.1 h
    exact List.forall_mem_cons.2 ⟨sound_clause hq, ih hws⟩

/-- Every predicate that a query compiles to is sound. -/
theorem sound_query {text : Option String} {s s' : Unit}
    (h : runFrom s ((v.compiler schema).query text) = (.ok p, s')) : Sound schema v p := by
  obtain ⟨ts, -, h⟩ := tokens_of_query h
  obtain ⟨vs, hvs, hd⟩ := derivation_of_tokens _ h
  exact hd.handsOn handedOn_sound (sound_of_mapM hvs)

end Compiler

end GroupSearch
