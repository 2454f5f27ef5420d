import GroupSearch.Proofs.Building
import GroupSearch.Proofs.Recognition
import Mathlib.Data.List.Basic
import Mathlib.Order.Bounds.Defs

namespace GroupSearch

namespace Grammar

variable {α : Type}

mutual

theorem Disjunction.leaves_eq {ts : List Token} {vs : List (Formula α)} {p : Formula α}
    (h : Disjunction ts vs p) : p.leaves = vs.flatMap Formula.leaves := by
  match h with
  | .single h => exact h.leaves_eq
  | .several h hs =>
    rw [Formula.leaves, Formula.leavesAll_eq_flatMap, h.leaves_eq, hs.leaves_eq,
      List.flatMap_append]

theorem Disjuncts.leaves_eq {ts : List Token} {vs ps : List (Formula α)} (h : Disjuncts ts vs ps) :
    ps.flatMap Formula.leaves = vs.flatMap Formula.leaves := by
  match h with
  | .nil => rfl
  | .cons h hs => rw [List.flatMap_cons, List.flatMap_append, h.leaves_eq, hs.leaves_eq]

theorem Conjunction.leaves_eq {ts : List Token} {vs : List (Formula α)} {p : Formula α}
    (h : Conjunction ts vs p) : p.leaves = vs.flatMap Formula.leaves := by
  match h with
  | .single h => exact h.leaves_eq
  | .several h hs =>
    rw [Formula.leaves, Formula.leavesAll_eq_flatMap, h.leaves_eq, hs.leaves_eq,
      List.flatMap_append]

theorem Conjuncts.leaves_eq {ts : List Token} {vs ps : List (Formula α)} (h : Conjuncts ts vs ps) :
    ps.flatMap Formula.leaves = vs.flatMap Formula.leaves := by
  match h with
  | .nil => rfl
  | .and h hs | .next h hs =>
    rw [List.flatMap_cons, List.flatMap_append, h.leaves_eq, hs.leaves_eq]

theorem Negation.leaves_eq {ts : List Token} {vs : List (Formula α)} {p : Formula α}
    (h : Negation ts vs p) : p.leaves = vs.flatMap Formula.leaves := by
  match h with
  | .not h => exact h.leaves_eq
  | .primary h => exact h.leaves_eq

theorem Primary.leaves_eq {ts : List Token} {vs : List (Formula α)} {p : Formula α}
    (h : Primary ts vs p) : p.leaves = vs.flatMap Formula.leaves := by
  match h with
  | .group h => exact h.leaves_eq
  | .clause => exact (List.flatMap_singleton ..).symm

end

end Grammar

def Clause.limitValue? : Clause → Option String
  | operator "limit" value => some value
  | _ => none

def Query.limitValues (ts : List Token) : List String :=
  (clauses ts).filterMap Clause.limitValue?

namespace Predicate

/-- The limits that a walk through a predicate meets, in order. -/
def limits (p : Predicate) : List Nat :=
  p.walk.filterMap fun q ↦ q.leaf?.bind fun a ↦ a.limit?.map Limit.count

variable {p : Predicate}

theorem limits_eq (p : Predicate) :
    p.limits = p.leaves.filterMap fun a ↦ a.limit?.map Limit.count := by
  rw [← Formula.filterMap_walk, List.filterMap_filterMap]
  rfl

theorem effectiveLimit_eq_min? (p : Predicate) : p.effectiveLimit = p.limits.min? := by
  rw [limits_eq]
  rfl

theorem limits_eq_nil (h : ∀ a ∈ p.leaves, a.limit? = none) : p.limits = [] := by
  rw [limits_eq, List.filterMap_eq_nil_iff]
  intro a ha
  rw [h a ha, Option.map_none]

theorem limits_of_derivation {ts : List Token} {vs : List Predicate}
    (h : Grammar.Disjunction ts vs p) : p.limits = vs.flatMap limits := by
  rw [limits_eq, h.leaves_eq, List.filterMap_flatMap]
  exact congrArg vs.flatMap (funext fun v ↦ (limits_eq v).symm)

/-- The limits are the numbers, from 1 to the greatest of 32 bits, that the texts stand for. -/
structure Caps (values : List String) (limits : List Nat) : Prop where
  numerals : values.map (Text.integer? ·.toList) = limits.map fun n : Nat ↦ some (n : Int)
  bounded : ∀ n ∈ limits, 1 ≤ n ∧ n ≤ 2147483647

namespace Caps

variable {values values' : List String} {ns ns' : List Nat}

theorem nil : Caps [] [] := ⟨rfl, nofun⟩

theorem append (h : Caps values ns) (h' : Caps values' ns') :
    Caps (values ++ values') (ns ++ ns') where
  numerals := by rw [List.map_append, List.map_append, h.numerals, h'.numerals]
  bounded := List.forall_mem_append.2 ⟨h.bounded, h'.bounded⟩

theorem eq_nil_iff (h : Caps values ns) : values = [] ↔ ns = [] := by
  rw [← List.map_eq_nil_iff (f := (Text.integer? ·.toList)), h.numerals, List.map_eq_nil_iff]

theorem exists_value_iff (h : Caps values ns) (m : Int) :
    (∃ v ∈ values, Text.integer? v.toList = some m) ↔ ∃ n ∈ ns, (n : Int) = m := by
  have hmem : some m ∈ values.map (Text.integer? ·.toList) ↔ some m ∈ ns.map fun n : Nat ↦
      some (n : Int) := by rw [h.numerals]
  simpa only [List.mem_map, Option.some.injEq] using hmem

theorem isLeast_of_min? (h : Caps values ns) {n : Nat} (hn : ns.min? = some n) :
    1 ≤ n ∧ n ≤ 2147483647 ∧
      IsLeast {m : Int | ∃ v ∈ values, Text.integer? v.toList = some m} n := by
  obtain ⟨hmem, hle⟩ := List.min?_eq_some_iff.1 hn
  obtain ⟨hpos, hmax⟩ := h.bounded n hmem
  refine ⟨hpos, hmax, (h.exists_value_iff n).2 ⟨n, hmem, rfl⟩, ?_⟩
  intro m hm
  obtain ⟨k, hk, rfl⟩ := (h.exists_value_iff m).1 hm
  exact Int.ofNat_le.2 (hle k hk)

end Caps

end Predicate

namespace Compiler

open Predicate

variable {σ : Type} {c : Compiler σ} {s t : σ} {p : Predicate} {value : String}

theorem limits_nameHas (value : String) : (nameHas value).limits = [] := by
  unfold nameHas
  cases value.isEmpty <;> rfl

theorem limits_term (value : String) : (term value).limits = [] := by
  unfold term nameHas descriptionHas
  dsimp only
  cases value.isEmpty <;> rfl

theorem limits_descriptionHas (h : descriptionHas (some value) = .ok p) : p.limits = [] := by
  unfold descriptionHas at h
  dsimp only at h
  split at h <;> cases h
  rfl

theorem limits_propertyIs (h : propertyIs value = .ok p) : p.limits = [] := by
  unfold propertyIs at h
  split at h <;> cases h
  rfl

theorem limits_hasMember (h : runFrom s (c.hasMember value) = (.ok p, t)) : p.limits = [] := by
  unfold hasMember at h
  split at h
  case isFalse => cases h
  case isTrue =>
    obtain ⟨ids, u, -, h⟩ := runFrom_bind_eq_ok.1 h
    split at h
    case h_1 => cases h
    case h_2 id rest _ =>
      cases h
      refine limits_eq_nil fun a ha ↦ ?_
      simp only [Formula.leaves_disj, Formula.leaves, List.flatMap_map, List.mem_append,
        List.mem_singleton, List.mem_flatMap] at ha
      rcases ha with rfl | ⟨i, -, rfl⟩ <;> rfl

theorem limits_hasSubgroup (h : runFrom s (c.hasSubgroup value) = (.ok p, t)) :
    p.limits = [] := by
  unfold hasSubgroup at h
  split at h
  case isFalse => cases h
  case isTrue =>
    obtain ⟨uuid, u, -, h⟩ := runFrom_bind_eq_ok.1 h
    cases h
    rfl

theorem caps_limitTo (h : limitTo (some value) = .ok p) : Caps [value] p.limits := by
  obtain ⟨cap, rfl, hvalue, hle⟩ := limitTo_eq_ok_iff.1 h
  refine ⟨?_, List.forall_mem_singleton.2 ⟨cap.positive, hle⟩⟩
  rw [List.map_singleton, (Text.readInteger_eq_some_iff.1 hvalue).1]
  rfl

theorem caps_apply {o : Operator} (h : runFrom s (c.apply o value) = (.ok p, t)) :
    Caps (Clause.operator o.keyword value).limitValue?.toList p.limits := by
  have uncapped (hp : p.limits = []) : Caps [] p.limits := hp ▸ .nil
  cases o with
  | uuid | name =>
    cases h
    exact .nil
  | inname =>
    obtain rfl := Except.ok.inj (Prod.mk.inj h).1
    exact uncapped (limits_nameHas value)
  | description => exact uncapped (limits_descriptionHas (runFrom_ofExcept_eq_ok.1 h).1)
  | is => exact uncapped (limits_propertyIs (runFrom_ofExcept_eq_ok.1 h).1)
  | member => exact uncapped (limits_hasMember h)
  | subgroup => exact uncapped (limits_hasSubgroup h)
  | limit => exact caps_limitTo (runFrom_liftExcept_eq_ok.1 h).1

theorem caps_clause {cl : Clause} (h : runFrom s (c.clause cl) = (.ok p, t)) :
    Caps cl.limitValue?.toList p.limits := by
  cases cl with
  | term value =>
    obtain rfl := Except.ok.inj (Prod.mk.inj h).1
    rw [limits_term]
    exact .nil
  | operator keyword value =>
    obtain ⟨o, u, rfl, happly⟩ := apply_of_operator h
    exact caps_apply happly

theorem caps_of_mapM {cls : List Clause} {vs : List Predicate}
    (h : runFrom s (cls.mapM c.clause) = (.ok vs, t)) :
    Caps (cls.filterMap Clause.limitValue?) (vs.flatMap limits) := by
  rw [List.filterMap_eq_flatMap_toList]
  induction cls generalizing s vs with
  | nil =>
    obtain ⟨rfl, -⟩ := runFrom_mapM_nil_eq_ok.1 h
    exact .nil
  | cons cl cls ih =>
    obtain ⟨q, ws, u, rfl, hq, hws⟩ := runFrom_mapM_cons_eq_ok.1 h
    exact (caps_clause hq).append (ih hws)

/-- How the effective limit of a predicate is told from the tokens that it was compiled from. -/
structure Limited (ts : List Token) (p : Predicate) : Prop where
  caps : Caps (Query.limitValues ts) p.limits
  unlimited : Query.limitValues ts = [] → p.effectiveLimit = none
  least : Query.limitValues ts ≠ [] → ∃ n : Nat, p.effectiveLimit = some n ∧
    1 ≤ n ∧ n ≤ 2147483647 ∧
      IsLeast {m : Int | ∃ v ∈ Query.limitValues ts, Text.integer? v.toList = some m} n

theorem limited_of_caps {ts : List Token} (h : Caps (Query.limitValues ts) p.limits) :
    Limited ts p where
  caps := h
  unlimited hv := by rw [effectiveLimit_eq_min?, h.eq_nil_iff.1 hv, List.min?_nil]
  least hv := by
    rw [effectiveLimit_eq_min?]
    cases hn : p.limits.min? with
    | none => exact (hv (h.eq_nil_iff.2 (List.min?_eq_none_iff.1 hn))).elim
    | some n => exact ⟨n, rfl, h.isLeast_of_min? hn⟩

/-- Whatever a query compiles to, the limit that counts is the least of those that its tokens set,
at whatever depth and under whatever connectives they stand. -/
theorem effectiveLimit_least (c : Compiler σ) (s : σ) (text : Option String) (p : Predicate)
    (h : (runFrom s (c.parse text)).1 = .ok (.ok p) ∨
      (runFrom s (c.compile text)).1 = .ok (.ok p)) :
    ∃ ts, Token.read (text.getD "") = .ok ts ∧ Limited ts p := by
  obtain ⟨s', t, hq⟩ := query_of_compiles h
  obtain ⟨ts, hr, ht⟩ := tokens_of_query hq
  obtain ⟨vs, hvs, hd⟩ := c.derivation_of_tokens ht
  have hcaps := caps_of_mapM hvs
  rw [← limits_of_derivation hd] at hcaps
  exact ⟨ts, hr, limited_of_caps hcaps⟩

/-- A limit in capitals and below a negation, one with zeros in front, and a term that only looks
like one. -/
theorem effectiveLimit_least_negated :
    let lookups : Lookups Unit :=
      ⟨fun _ ↦ pure [], fun _ ↦ pure none, fun _ ↦ pure [], fun _ s ↦ s⟩
    let text := "limit:0030 OR -(name:x LIMIT:7 \"limit:1\")"
    let p : Predicate := .any (.leaf (.limit ⟨30, by decide⟩))
      [.not (.all (nameIs "x") [.leaf (.limit ⟨7, by decide⟩), term "limit:1"])]
    (runFrom () (compile ⟨.v2, lookups⟩ (some text))).1 = .ok (.ok p) ∧
      ∃ ts, Token.read text = .ok ts ∧ Limited ts p := by
  intro lookups text p
  have h : (runFrom () (compile ⟨.v2, lookups⟩ (some text))).1 = .ok (.ok p) := by decide +kernel
  exact ⟨h, effectiveLimit_least ⟨.v2, lookups⟩ () (some text) p (.inr h)⟩

end Compiler

end GroupSearch
