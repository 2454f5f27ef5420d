import GroupSearch.Proofs.Descent

namespace GroupSearch.Query

variable {ε σ α : Type} {build : Clause → ExceptT ε (StateM σ) (Formula α)} {fault : Cause → ε}
  {s t u : σ} {ts us r r' : List Token} {vs ws ps : List (Formula α)} {p : Formula α}

variable (build) in
/-- Where its clauses are built as `vs`, a reader takes the part `ts` as `q` in front of any tokens
that it may end at. -/
def Reads {γ : Type} {P : List Token → List Token → Prop}
    (reader : (ts : List Token) → ExceptT ε (StateM σ) (γ × { r : List Token // P ts r }))
    (ends : List Token → Prop) (ts : List Token) (vs : List (Formula α)) (q : γ) : Prop :=
  ∀ {s t : σ} (rest : List Token), Built build s ts vs t → ends rest →
    ∃ h, runFrom s (reader (ts ++ rest)) = (.ok (q, ⟨rest, h⟩), t)

theorem Built.split (h : Built build s (ts ++ us) (vs ++ ws) u)
    (hv : vs.length = (clauses ts).length) :
    ∃ t, Built build s ts vs t ∧ Built build t us ws u := by
  rw [Built, clauses_append] at h
  exact (runFrom_mapM_append_eq_ok_append hv).1 h

theorem disjunction_of_ok {h h'}
    (hp : runFrom s (conjunction build fault ts) = (.ok (p, ⟨r, h⟩), t))
    (hps : runFrom t (disjuncts build fault r) = (.ok (ps, ⟨r', h'⟩), u)) :
    ∃ h, runFrom s (disjunction build fault ts) = (.ok (.disj p ps, ⟨r', h⟩), u) := by
  refine ⟨Nat.lt_of_le_of_lt h' h, ?_⟩
  rw [disjunction]
  exact runFrom_bind_eq_ok.2 ⟨_, t, hp, runFrom_bind_eq_ok.2 ⟨_, u, hps, rfl⟩⟩

theorem disjuncts_of_ok (i : Nat) {h h'}
    (hp : runFrom s (conjunction build fault ts) = (.ok (p, ⟨r, h⟩), t))
    (hps : runFrom t (disjuncts build fault r) = (.ok (ps, ⟨r', h'⟩), u)) :
    ∃ h, runFrom s (disjuncts build fault (⟨.or, i⟩ :: ts)) = (.ok (p :: ps, ⟨r', h⟩), u) := by
  refine ⟨Nat.le_succ_of_le (Nat.le_trans h' (Nat.le_of_lt h)), ?_⟩
  rw [disjuncts]
  exact runFrom_bind_eq_ok.2 ⟨_, t, hp, runFrom_bind_eq_ok.2 ⟨_, u, hps, rfl⟩⟩

theorem disjuncts_of_ends (hr : endsDisjunction r) :
    ∃ h, runFrom s (disjuncts build fault r) = (.ok ([], ⟨r, h⟩), s) := by
  refine ⟨Nat.le_refl _, ?_⟩
  rw [disjuncts.eq_def]
  split
  · cases hr
  · rfl

theorem conjunction_of_ok {h h'}
    (hp : runFrom s (negation build fault ts) = (.ok (p, ⟨r, h⟩), t))
    (hps : runFrom t (conjuncts build fault r) = (.ok (ps, ⟨r', h'⟩), u)) :
    ∃ h, runFrom s (conjunction build fault ts) = (.ok (.conj p ps, ⟨r', h⟩), u) := by
  refine ⟨Nat.lt_of_le_of_lt h' h, ?_⟩
  rw [conjunction]
  exact runFrom_bind_eq_ok.2 ⟨_, t, hp, runFrom_bind_eq_ok.2 ⟨_, u, hps, rfl⟩⟩

theorem conjuncts_of_ok (hts : ¬ endsConjunction ts = true) (hus : dropAnd ts = us) {h h'}
    (hp : runFrom s (negation build fault us) = (.ok (p, ⟨r, h⟩), t))
    (hps : runFrom t (conjuncts build fault r) = (.ok (ps, ⟨r', h'⟩), u)) :
    ∃ h, runFrom s (conjuncts build fault ts) = (.ok (p :: ps, ⟨r', h⟩), u) := by
  subst hus
  refine ⟨Nat.le_trans h' (Nat.le_trans (Nat.le_of_lt h) (dropAnd_length ts)), ?_⟩
  rw [conjuncts, if_neg hts]
  exact runFrom_bind_eq_ok.2 ⟨_, t, hp, runFrom_bind_eq_ok.2 ⟨_, u, hps, rfl⟩⟩

theorem conjuncts_of_ends (hr : endsConjunction r = true) :
    ∃ h, runFrom s (conjuncts build fault r) = (.ok ([], ⟨r, h⟩), s) := by
  refine ⟨Nat.le_refl _, ?_⟩
  rw [conjuncts, if_pos hr]
  rfl

theorem negation_of_ok (i : Nat) {h}
    (hp : runFrom s (negation build fault ts) = (.ok (p, ⟨r, h⟩), t)) :
    ∃ h, runFrom s (negation build fault (⟨.not, i⟩ :: ts)) = (.ok (.not p, ⟨r, h⟩), t) := by
  refine ⟨Nat.lt_succ_of_lt h, ?_⟩
  rw [negation]
  exact runFrom_bind_eq_ok.2 ⟨_, t, hp, rfl⟩

theorem negation_of_primary (hts : ∀ i us, ts = ⟨.not, i⟩ :: us → False) :
    negation build fault ts = primary build fault ts := by
  rw [negation.eq_def]
  split
  · exact (hts _ _ rfl).elim
  · rfl

theorem primary_of_ok (i j : Nat) {h}
    (hp : runFrom s (disjunction build fault ts) = (.ok (p, ⟨⟨.closeParen, j⟩ :: r, h⟩), t)) :
    ∃ h, runFrom s (primary build fault (⟨.openParen, i⟩ :: ts)) = (.ok (p, ⟨r, h⟩), t) := by
  refine ⟨Nat.lt_succ_of_lt (Nat.lt_of_succ_lt h), ?_⟩
  rw [primary]
  exact runFrom_bind_eq_ok.2 ⟨_, t, hp, rfl⟩

theorem primary_of_clause {cl : Clause} {i : Nat} (hp : runFrom s (build cl) = (.ok p, t)) :
    ∃ h, runFrom s (primary build fault (⟨.clause cl, i⟩ :: r)) = (.ok (p, ⟨r, h⟩), t) := by
  refine ⟨Nat.lt_succ_self _, ?_⟩
  rw [primary]
  exact runFrom_bind_eq_ok.2 ⟨_, t, hp, rfl⟩

theorem begins_operand {r : Reading} (h : Reading.start.run ts = some r) (hr : r.wanting = false)
    (rest : List Token) :
    ¬ endsConjunction (ts ++ rest) = true ∧ dropAnd (ts ++ rest) = ts ++ rest := by
  match ts with
  | [] => cases h; cases hr
  | ⟨.and, i⟩ :: us | ⟨.or, i⟩ :: us | ⟨.closeParen, i⟩ :: us => cases h
  | ⟨.not, i⟩ :: us | ⟨.openParen, i⟩ :: us | ⟨.clause cl, i⟩ :: us => exact ⟨nofun, rfl⟩

theorem endsConjunction_of_endsDisjunction (h : endsDisjunction ts) :
    endsConjunction ts = true := by
  match ts with
  | [] => rfl
  | t :: us => simp only [endsConjunction, show t.lexeme = .closeParen from h]; rfl

end GroupSearch.Query

namespace GroupSearch.Grammar

open Query

variable {ε σ α : Type} {build : Clause → ExceptT ε (StateM σ) (Formula α)} {fault : Cause → ε}

theorem Disjuncts.endsConjunction {ts : List Token} {vs ps : List (Formula α)}
    (h : Disjuncts ts vs ps) {rest : List Token} (hrest : endsDisjunction rest) :
    endsConjunction (ts ++ rest) = true := by
  cases h with
  | nil => exact endsConjunction_of_endsDisjunction hrest
  | cons => rfl

mutual

theorem Disjunction.reads {ts : List Token} {vs : List (Formula α)} {p : Formula α}
    (h : Disjunction ts vs p) :
    Reads build (disjunction build fault) endsDisjunction ts vs p := by
  intro s u rest hb hrest
  match h with
  | .single h =>
    obtain ⟨_, hp⟩ := h.reads rest hb (endsConjunction_of_endsDisjunction hrest)
    obtain ⟨_, hps⟩ := disjuncts_of_ends hrest
    exact disjunction_of_ok hp hps
  | .several h hs =>
    obtain ⟨t, hb, hbs⟩ := hb.split h.length_values
    rw [List.append_assoc]
    obtain ⟨_, hp⟩ := h.reads _ hb (hs.endsConjunction hrest)
    obtain ⟨_, hps⟩ := hs.reads rest hbs hrest
    exact disjunction_of_ok hp hps

theorem Disjuncts.reads {ts : List Token} {vs ps : List (Formula α)} (h : Disjuncts ts vs ps) :
    Reads build (disjuncts build fault) endsDisjunction ts vs ps := by
  intro s u rest hb hrest
  match h with
  | .nil =>
    cases hb
    exact disjuncts_of_ends hrest
  | .cons h hs =>
    obtain ⟨t, hb, hbs⟩ := Built.split hb h.length_values
    rw [List.cons_append, List.append_assoc]
    obtain ⟨_, hp⟩ := h.reads _ hb (hs.endsConjunction hrest)
    obtain ⟨_, hps⟩ := hs.reads rest hbs hrest
    exact disjuncts_of_ok _ hp hps

theorem Conjunction.reads {ts : List Token} {vs : List (Formula α)} {p : Formula α}
    (h : Conjunction ts vs p) :
    Reads build (conjunction build fault) (endsConjunction · = true) ts vs p := by
  intro s u rest hb hrest
  match h with
  | .single h =>
    obtain ⟨_, hp⟩ := h.reads rest hb trivial
    obtain ⟨_, hps⟩ := conjuncts_of_ends hrest
    exact conjunction_of_ok hp hps
  | .several h hs =>
    obtain ⟨t, hb, hbs⟩ := hb.split h.length_values
    rw [List.append_assoc]
    obtain ⟨_, hp⟩ := h.reads _ hb trivial
    obtain ⟨_, hps⟩ := hs.reads rest hbs hrest
    exact conjunction_of_ok hp hps

theorem Conjuncts.reads {ts : List Token} {vs ps : List (Formula α)} (h : Conjuncts ts vs ps) :
    Reads build (conjuncts build fault) (endsConjunction · = true) ts vs ps := by
  intro s u rest hb hrest
  match h with
  | .nil =>
    cases hb
    exact conjuncts_of_ends hrest
  | .and h hs =>
    obtain ⟨t, hb, hbs⟩ := Built.split hb h.length_values
    rw [List.cons_append, List.append_assoc]
    obtain ⟨_, hp⟩ := h.reads _ hb trivial
    obtain ⟨_, hps⟩ := hs.reads rest hbs hrest
    exact conjuncts_of_ok nofun rfl hp hps
  | .next h hs =>
    obtain ⟨t, hb, hbs⟩ := hb.split h.length_values
    rw [List.append_assoc]
    obtain ⟨_, hp⟩ := h.reads _ hb trivial
    obtain ⟨_, hps⟩ := hs.reads rest hbs hrest
    obtain ⟨hbegin, hdrop⟩ := begins_operand (h.run [] true) rfl (_ ++ rest)
    exact conjuncts_of_ok hbegin hdrop hp hps

theorem Negation.reads {ts : List Token} {vs : List (Formula α)} {p : Formula α}
    (h : Negation ts vs p) :
    Reads build (negation build fault) (fun _ ↦ True) ts vs p := by
  intro s u rest hb hrest
  match h with
  | .not h =>
    obtain ⟨_, hp⟩ := h.reads rest hb hrest
    exact negation_of_ok _ hp
  | .primary h =>
    rw [negation_of_primary]
    · exact h.reads rest hb hrest
    · cases h <;> exact nofun

theorem Primary.reads {ts : List Token} {vs : List (Formula α)} {p : Formula α}
    (h : Primary ts vs p) :
    Reads build (primary build fault) (fun _ ↦ True) ts vs p := by
  intro s u rest hb hrest
  match h with
  | .group (i := i) (j := j) h =>
    rw [Built, clauses_group] at hb
    rw [List.cons_append, List.append_assoc]
    obtain ⟨_, hp⟩ := h.reads (⟨.closeParen, j⟩ :: rest) hb rfl
    exact primary_of_ok i j hp
  | .clause =>
    obtain ⟨a, ws, t, hv, hp, hs⟩ := runFrom_mapM_cons_eq_ok.1 hb
    cases hv
    cases hs
    exact primary_of_clause hp

end

end GroupSearch.Grammar
