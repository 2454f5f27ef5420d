import GroupSearch.Formula
import GroupSearch.Query.Token

namespace GroupSearch

namespace Query

def clauses (ts : List Token) : List Clause :=
  ts.filterMap fun t ↦ match t.lexeme with
    | .clause cl => some cl
    | _ => none

theorem clauses_append (ts us : List Token) : clauses (ts ++ us) = clauses ts ++ clauses us :=
  List.filterMap_append

theorem clauses_group (i j : Nat) (ts : List Token) :
    clauses (⟨.openParen, i⟩ :: (ts ++ [⟨.closeParen, j⟩])) = clauses ts := by simp [clauses]

end Query

namespace Grammar

open Query

variable {α : Type}

mutual

inductive Disjunction : List Token → List (Formula α) → Formula α → Prop
  | single {ts : List Token} {vs : List (Formula α)} {p : Formula α} :
      Conjunction ts vs p → Disjunction ts vs p
  | several {ts us : List Token} {vs ws qs : List (Formula α)} {p q : Formula α} :
      Conjunction ts vs p → Disjuncts us ws (q :: qs) →
      Disjunction (ts ++ us) (vs ++ ws) (.any p (q :: qs))

/-- The operands behind the first, each with its `OR`. -/
inductive Disjuncts : List Token → List (Formula α) → List (Formula α) → Prop
  | nil : Disjuncts [] [] []
  | cons {i : Nat} {ts us : List Token} {vs ws ps : List (Formula α)} {p : Formula α} :
      Conjunction ts vs p → Disjuncts us ws ps →
      Disjuncts (⟨.or, i⟩ :: (ts ++ us)) (vs ++ ws) (p :: ps)

inductive Conjunction : List Token → List (Formula α) → Formula α → Prop
  | single {ts : List Token} {vs : List (Formula α)} {p : Formula α} :
      Negation ts vs p → Conjunction ts vs p
  | several {ts us : List Token} {vs ws qs : List (Formula α)} {p q : Formula α} :
      Negation ts vs p → Conjuncts us ws (q :: qs) →
      Conjunction (ts ++ us) (vs ++ ws) (.all p (q :: qs))

/-- The operands behind the first, with or without an `AND`. -/
inductive Conjuncts : List Token → List (Formula α) → List (Formula α) → Prop
  | nil : Conjuncts [] [] []
  | and {i : Nat} {ts us : List Token} {vs ws ps : List (Formula α)} {p : Formula α} :
      Negation ts vs p → Conjuncts us ws ps →
      Conjuncts (⟨.and, i⟩ :: (ts ++ us)) (vs ++ ws) (p :: ps)
  | next {ts us : List Token} {vs ws ps : List (Formula α)} {p : Formula α} :
      Negation ts vs p → Conjuncts us ws ps → Conjuncts (ts ++ us) (vs ++ ws) (p :: ps)

inductive Negation : List Token → List (Formula α) → Formula α → Prop
  | not {i : Nat} {ts : List Token} {vs : List (Formula α)} {p : Formula α} :
      Negation ts vs p → Negation (⟨.not, i⟩ :: ts) vs (.not p)
  | primary {ts : List Token} {vs : List (Formula α)} {p : Formula α} :
      Primary ts vs p → Negation ts vs p

inductive Primary : List Token → List (Formula α) → Formula α → Prop
  | group {i j : Nat} {ts : List Token} {vs : List (Formula α)} {p : Formula α} :
      Disjunction ts vs p → Primary (⟨.openParen, i⟩ :: (ts ++ [⟨.closeParen, j⟩])) vs p
  | clause {cl : Clause} {i : Nat} {v : Formula α} : Primary [⟨.clause cl, i⟩] [v] v

end

theorem Disjunction.disj {ts us : List Token} {vs ws ps : List (Formula α)} {p : Formula α}
    (h : Conjunction ts vs p) (hs : Disjuncts us ws ps) :
    Disjunction (ts ++ us) (vs ++ ws) (.disj p ps) := by
  cases ps with
  | nil => cases hs; simpa using Disjunction.single h
  | cons q qs => exact .several h hs

theorem Conjunction.conj {ts us : List Token} {vs ws ps : List (Formula α)} {p : Formula α}
    (h : Negation ts vs p) (hs : Conjuncts us ws ps) :
    Conjunction (ts ++ us) (vs ++ ws) (.conj p ps) := by
  cases ps with
  | nil => cases hs; simpa using Conjunction.single h
  | cons q qs => exact .several h hs

mutual

theorem Disjunction.length_values {ts : List Token} {vs : List (Formula α)} {p : Formula α}
    (h : Disjunction ts vs p) : vs.length = (clauses ts).length := by
  match h with
  | .single h => exact h.length_values
  | .several h hs => simp [clauses, h.length_values, hs.length_values]

theorem Disjuncts.length_values {ts : List Token} {vs ps : List (Formula α)}
    (h : Disjuncts ts vs ps) : vs.length = (clauses ts).length := by
  match h with
  | .nil => rfl
  | .cons h hs => simp [clauses, h.length_values, hs.length_values]

theorem Conjunction.length_values {ts : List Token} {vs : List (Formula α)} {p : Formula α}
    (h : Conjunction ts vs p) : vs.length = (clauses ts).length := by
  match h with
  | .single h => exact h.length_values
  | .several h hs => simp [clauses, h.length_values, hs.length_values]

theorem Conjuncts.length_values {ts : List Token} {vs ps : List (Formula α)}
    (h : Conjuncts ts vs ps) : vs.length = (clauses ts).length := by
  match h with
  | .nil => rfl
  | .and h hs => simp [clauses, h.length_values, hs.length_values]
  | .next h hs => simp [clauses, h.length_values, hs.length_values]

theorem Negation.length_values {ts : List Token} {vs : List (Formula α)} {p : Formula α}
    (h : Negation ts vs p) : vs.length = (clauses ts).length := by
  match h with
  | .not h => simp [clauses, h.length_values]
  | .primary h => exact h.length_values

theorem Primary.length_values {ts : List Token} {vs : List (Formula α)} {p : Formula α}
    (h : Primary ts vs p) : vs.length = (clauses ts).length := by
  match h with
  | .group h => simp [clauses, h.length_values]
  | .clause => rfl

end

/-- A property that the connectives hand on, where each has at least two operands. -/
structure HandedOn (P : Formula α → Prop) : Prop where
  any {p q : Formula α} {qs : List (Formula α)} : P p → (∀ r ∈ q :: qs, P r) → P (.any p (q :: qs))
  all {p q : Formula α} {qs : List (Formula α)} : P p → (∀ r ∈ q :: qs, P r) → P (.all p (q :: qs))
  not {p : Formula α} : P p → P (.not p)

variable {P : Formula α → Prop}

mutual

theorem Disjunction.handsOn {ts : List Token} {vs : List (Formula α)} {p : Formula α}
    (h : Disjunction ts vs p) (hP : HandedOn P) (hvs : ∀ v ∈ vs, P v) : P p := by
  match h with
  | .single h => exact h.handsOn hP hvs
  | .several h hs =>
    rw [List.forall_mem_append] at hvs
    exact hP.any (h.handsOn hP hvs.1) (hs.handsOn hP hvs.2)

theorem Disjuncts.handsOn {ts : List Token} {vs ps : List (Formula α)} (h : Disjuncts ts vs ps)
    (hP : HandedOn P) (hvs : ∀ v ∈ vs, P v) : ∀ p ∈ ps, P p := by
  match h with
  | .nil => exact hvs
  | .cons h hs =>
    rw [List.forall_mem_append] at hvs
    exact List.forall_mem_cons.2 ⟨h.handsOn hP hvs.1, hs.handsOn hP hvs.2⟩

theorem Conjunction.handsOn {ts : List Token} {vs : List (Formula α)} {p : Formula α}
    (h : Conjunction ts vs p) (hP : HandedOn P) (hvs : ∀ v ∈ vs, P v) : P p := by
  match h with
  | .single h => exact h.handsOn hP hvs
  | .several h hs =>
    rw [List.forall_mem_append] at hvs
    exact hP.all (h.handsOn hP hvs.1) (hs.handsOn hP hvs.2)

theorem Conjuncts.handsOn {ts : List Token} {vs ps : List (Formula α)} (h : Conjuncts ts vs ps)
    (hP : HandedOn P) (hvs : ∀ v ∈ vs, P v) : ∀ p ∈ ps, P p := by
  match h with
  | .nil => exact hvs
  | .and h hs | .next h hs =>
    rw [List.forall_mem_append] at hvs
    exact List.forall_mem_cons.2 ⟨h.handsOn hP hvs.1, hs.handsOn hP hvs.2⟩

theorem Negation.handsOn {ts : List Token} {vs : List (Formula α)} {p : Formula α}
    (h : Negation ts vs p) (hP : HandedOn P) (hvs : ∀ v ∈ vs, P v) : P p := by
  match h with
  | .not h => exact hP.not (h.handsOn hP hvs)
  | .primary h => exact h.handsOn hP hvs

theorem Primary.handsOn {ts : List Token} {vs : List (Formula α)} {p : Formula α}
    (h : Primary ts vs p) (hP : HandedOn P) (hvs : ∀ v ∈ vs, P v) : P p := by
  match h with
  | .group h => exact h.handsOn hP hvs
  | .clause => exact List.forall_mem_singleton.1 hvs

end

end Grammar

end GroupSearch
