import GroupSearch.Proofs.Run
import GroupSearch.Proofs.Viability
import GroupSearch.Query.Descent

namespace GroupSearch.Query

variable {ε σ α β γ : Type} (build : Clause → ExceptT ε (StateM σ) (Formula α)) (fault : Cause → ε)

def Built (s : σ) (ts : List Token) (vs : List (Formula α)) (t : σ) : Prop :=
  runFrom s ((clauses ts).mapM build) = (.ok vs, t)

/-- Why no token more can be read. -/
inductive Halts (r : Reading) (s : σ) : List Token → ε → σ → Prop
  | stuck {t : Token} {ts : List Token} :
      r.step t = none → Halts r s (t :: ts) (fault (unexpected t)) s
  | wanting : r.wanting = true → Halts r s [] (fault .unexpectedEnd) s
  | unclosed {p : Nat} {opened : List Nat} :
      r = ⟨p :: opened, false⟩ → Halts r s [] (fault (.unclosed p)) s
  | clause {cl : Clause} {i : Nat} {ts : List Token} {e : ε} {t : σ} :
      runFrom s (build cl) = (.error e, t) → Halts r s (⟨.clause cl, i⟩ :: ts) e t

/-- The tokens are read up to a place where no token more can be read. -/
def Stops (r : Reading) (s : σ) (ts : List Token) (e : ε) (t : σ) : Prop :=
  ∃ before after r' vs s', ts = before ++ after ∧ r.run before = some r' ∧
    Built build s before vs s' ∧ Halts build fault r' s' after e t

variable {build fault} {s t u : σ} {e : ε} {ts us : List Token} {vs ws : List (Formula α)}
  {r r' : Reading}

theorem Built.append (h : Built build s ts vs t) (h' : Built build t us ws u) :
    Built build s (ts ++ us) (vs ++ ws) u := by
  rw [Built, clauses_append]
  exact runFrom_mapM_append_eq_ok.2 ⟨vs, ws, t, rfl, h, h'⟩

theorem Halts.stops (h : Halts build fault r s ts e t) : Stops build fault r s ts e t :=
  ⟨[], ts, r, [], s, rfl, rfl, rfl, h⟩

theorem Stops.behind (hr : r.run us = some r') (hb : Built build s us vs t)
    (h : Stops build fault r' t ts e u) : Stops build fault r s (us ++ ts) e u := by
  obtain ⟨before, after, r₁, ws, s₁, rfl, hrun, hb', hh⟩ := h
  refine ⟨us ++ before, after, r₁, vs ++ ws, s₁, (List.append_assoc ..).symm, ?_, hb.append hb', hh⟩
  rw [Reading.run_append, hr]
  exact hrun

theorem Stops.of_step_eq {x : Token} (hr : r.step x = r'.step x)
    (h : Stops build fault r s (x :: ts) e t) : Stops build fault r' s (x :: ts) e t := by
  obtain ⟨before, after, r₁, vs, s', hts, hrun, hb, hh⟩ := h
  cases before with
  | nil =>
    -- There is a token left, so nothing is missing at the end.
    cases hts
    cases hrun
    cases hb
    cases hh with
    | stuck hx => exact (Halts.stuck (hr ▸ hx)).stops
    | clause he => exact (Halts.clause he).stops
  | cons x' before =>
    obtain ⟨rfl, rfl⟩ := List.cons.inj hts
    refine ⟨x :: before, after, r₁, vs, s', rfl, ?_, hb, hh⟩
    rw [Reading.run_cons, ← hr]
    exact hrun

/-- Between the operands of a conjunction, dropping an `AND` is all that makes a difference. -/
theorem dropAnd_cases {ts : List Token} (h : ¬ endsConjunction ts = true) :
    (∃ i us, ts = ⟨.and, i⟩ :: us ∧ dropAnd ts = us) ∨
      ∃ t us, ts = t :: us ∧ dropAnd ts = ts ∧
        ∀ opened, Reading.step ⟨opened, true⟩ t = Reading.step ⟨opened, false⟩ t := by
  match ts with
  | [] => exact (h rfl).elim
  | ⟨.and, i⟩ :: us => exact .inl ⟨i, us, rfl, rfl⟩
  | ⟨.or, i⟩ :: us => exact (h rfl).elim
  | ⟨.closeParen, i⟩ :: us => exact (h rfl).elim
  | ⟨.not, i⟩ :: us => exact .inr ⟨_, us, rfl, rfl, fun _ ↦ rfl⟩
  | ⟨.openParen, i⟩ :: us => exact .inr ⟨_, us, rfl, rfl, fun _ ↦ rfl⟩
  | ⟨.clause cl, i⟩ :: us => exact .inr ⟨_, us, rfl, rfl, fun _ ↦ rfl⟩

variable (build fault)

/-- What a reader owes that is started behind one of the readings `start`: a result stands for
tokens that have been built and leaves a rest that it may end at, and without a result the tokens
stop. -/
structure Spec {P : List Token → Prop} (start : List Nat → Reading)
    (stands : List Token → List (Formula α) → γ → Prop) (ends : List Token → Prop) (ts : List Token)
    (x : ExceptT ε (StateM σ) (γ × { r : List Token // P r })) : Prop where
  ok {s t : σ} {q : γ} {r : { r : List Token // P r }} : runFrom s x = (.ok (q, r), t) →
    ∃ used vs, ts = used ++ r.1 ∧ Built build s used vs t ∧ stands used vs q ∧ ends r.1
  error {s t : σ} {e : ε} : runFrom s x = (.error e, t) →
    ∀ opened, Stops build fault (start opened) s ts e t

variable {build fault} {P Q : List Token → Prop} {start mid : List Nat → Reading}
  {D : List Token → List (Formula α) → β → Prop} {E : List Token → List (Formula α) → γ → Prop}
  {ends ends' : List Token → Prop}

namespace Spec

theorem pure {q : γ} (h : P ts) (hq : E [] [] q) (he : ends ts) :
    Spec build fault start E ends ts
      (Pure.pure (q, ⟨ts, h⟩) : ExceptT ε (StateM σ) (γ × { r : List Token // P r })) where
  ok hr := by
    cases hr
    exact ⟨[], [], rfl, rfl, hq, he⟩
  error hr := by cases hr

theorem throw {c : Cause} (h : ∀ opened s, Halts build fault (start opened) s ts (fault c) s) :
    Spec build fault start E ends ts
      (MonadExcept.throw (fault c) : ExceptT ε (StateM σ) (γ × { r : List Token // P r })) where
  ok hr := by cases hr
  error hr opened := by
    cases hr
    exact (h opened _).stops

theorem bind {x : ExceptT ε (StateM σ) (β × { r : List Token // P r })}
    {f : β × { r : List Token // P r } → ExceptT ε (StateM σ) (γ × { r : List Token // Q r })}
    (hx : Spec build fault start D ends ts x)
    (hrun : ∀ {used vs p}, D used vs p → ∀ opened, (start opened).run used = some (mid opened))
    (hf : ∀ {used vs p} (r), ts = used ++ r.1 → D used vs p → ends r.1 →
      Spec build fault mid (fun us ws q ↦ E (used ++ us) (vs ++ ws) q) ends' r.1 (f (p, r))) :
    Spec build fault start E ends' ts (x >>= f) where
  ok hr := by
    obtain ⟨⟨p, r⟩, t, hp, hq⟩ := runFrom_bind_eq_ok.1 hr
    obtain ⟨used, vs, hts, hb, hD, he⟩ := hx.ok hp
    obtain ⟨us, ws, hr, hb', hE, he'⟩ := (hf r hts hD he).ok hq
    exact ⟨used ++ us, vs ++ ws, by rw [hts, hr, List.append_assoc], hb.append hb', hE, he'⟩
  error hr opened := by
    rcases runFrom_bind_eq_error.1 hr with hp | ⟨⟨p, r⟩, t, hp, hq⟩
    · exact hx.error hp opened
    · obtain ⟨used, vs, hts, hb, hD, he⟩ := hx.ok hp
      rw [hts]
      exact .behind (hrun hD opened) hb ((hf r hts hD he).error hq opened)

theorem last {x : ExceptT ε (StateM σ) (β × { r : List Token // P r })} {f : β → γ}
    {k : ∀ r, P r → Q r} (hx : Spec build fault start D ends ts x)
    (hE : ∀ {us ws p r}, D us ws p → ends r → E us ws (f p) ∧ ends' r) :
    Spec build fault start E ends' ts (x >>= fun a ↦ Pure.pure (f a.1, ⟨a.2.1, k _ a.2.2⟩)) where
  ok hr := by
    obtain ⟨⟨p, r⟩, t, hp, hq⟩ := runFrom_bind_eq_ok.1 hr
    obtain ⟨used, vs, hts, hb, hD, he⟩ := hx.ok hp
    cases hq
    exact ⟨used, vs, hts, hb, hE hD he⟩
  error hr opened := by
    rcases runFrom_bind_eq_error.1 hr with hp | ⟨a, t, hp, hq⟩
    · exact hx.error hp opened
    · cases hq

variable (mid) in
theorem token {x : Token} {y : ExceptT ε (StateM σ) (γ × { r : List Token // P r })}
    (hstep : ∀ opened, (start opened).step x = some (mid opened))
    (hx : clauses [x] = []) (h : Spec build fault mid (fun us ws q ↦ E (x :: us) ws q) ends ts y) :
    Spec build fault start E ends (x :: ts) y := by
  have hb (s : σ) : Built build s [x] [] s := by
    rw [Built, hx]
    rfl
  constructor
  case ok =>
    intro s t q r hr
    obtain ⟨used, vs, rfl, hb', hE, he⟩ := h.ok hr
    exact ⟨x :: used, vs, rfl, (hb s).append hb', hE, he⟩
  case error =>
    intro s t e hr opened
    have hrun : (start opened).run [x] = some (mid opened) := by
      rw [Reading.run_cons, hstep]
      rfl
    exact .behind hrun (hb s) (h.error hr opened)

theorem clause {E : List Token → List (Formula α) → Formula α → Prop} {cl : Clause} {i : Nat}
    (h : P ts) (hE : ∀ v, E [⟨.clause cl, i⟩] [v] v) (he : ends ts) :
    Spec build fault start E ends (⟨.clause cl, i⟩ :: ts) (do return (← build cl, ⟨ts, h⟩)) where
  ok {s t v r} hr := by
    obtain ⟨v, t, hv, hr⟩ := runFrom_bind_eq_ok.1 hr
    cases hr
    refine ⟨[⟨.clause cl, i⟩], [_], rfl, ?_, hE _, he⟩
    exact runFrom_mapM_cons_eq_ok.2 ⟨_, [], _, rfl, hv, rfl⟩
  error hr opened := by
    rcases runFrom_bind_eq_error.1 hr with hv | ⟨v, t, hv, hr⟩
    · exact (Halts.clause hv).stops
    · cases hr

theorem under {x : ExceptT ε (StateM σ) (γ × { r : List Token // P r })}
    (h : Spec build fault start E ends ts x) (p : Nat) :
    Spec build fault (fun opened ↦ start (p :: opened)) E ends ts x where
  ok := h.ok
  error hr opened := h.error hr (p :: opened)

theorem of_step_eq {x : Token} {y : ExceptT ε (StateM σ) (γ × { r : List Token // P r })}
    (hstep : ∀ opened, (mid opened).step x = (start opened).step x)
    (h : Spec build fault mid E ends (x :: ts) y) : Spec build fault start E ends (x :: ts) y where
  ok := h.ok
  error hr opened := (h.error hr opened).of_step_eq (hstep opened)

theorem mono {E' : List Token → List (Formula α) → γ → Prop}
    {x : ExceptT ε (StateM σ) (γ × { r : List Token // P r })}
    (h : Spec build fault start E ends ts x) (hE : ∀ {us ws q}, E us ws q → E' us ws q) :
    Spec build fault start E' ends ts x where
  ok hr := by
    obtain ⟨used, vs, hts, hb, hq, he⟩ := h.ok hr
    exact ⟨used, vs, hts, hb, hE hq, he⟩
  error := h.error

theorem behind_dropAnd {x : ExceptT ε (StateM σ) (γ × { r : List Token // P r })}
    (hts : ¬ endsConjunction ts = true)
    (h : Spec build fault (⟨·, true⟩)
      (fun us ws q ↦ E us ws q ∧ ∀ i, E (⟨.and, i⟩ :: us) ws q) ends (dropAnd ts) x) :
    Spec build fault (⟨·, false⟩) E ends ts x := by
  rcases dropAnd_cases hts with ⟨i, us, rfl, hu⟩ | ⟨x, us, rfl, hu, hstep⟩
  · rw [hu] at h
    exact .token _ (fun _ ↦ rfl) rfl (h.mono fun hq ↦ hq.2 i)
  · rw [hu] at h
    exact .of_step_eq hstep (h.mono And.left)

end Spec

def endsDisjunction : List Token → Prop
  | [] => True
  | t :: _ => t.lexeme = .closeParen

theorem endsDisjunction_of_not_or {ts : List Token} (h : endsConjunction ts = true)
    (hts : ∀ i us, ts = ⟨.or, i⟩ :: us → False) : endsDisjunction ts := by
  match ts with
  | [] => trivial
  | ⟨l, i⟩ :: us =>
    simp only [endsConjunction, Bool.or_eq_true, decide_eq_true_eq] at h
    rcases h with rfl | h
    · exact (hts i us rfl).elim
    · exact h

section Readers

variable (build fault)

mutual

theorem spec_disjunction (ts : List Token) :
    Spec build fault (⟨·, true⟩) Grammar.Disjunction endsDisjunction ts
      (disjunction build fault ts) := by
  rw [disjunction]
  refine (spec_conjunction ts).bind (fun hD opened ↦ hD.run opened true) ?_
  rintro used vs p ⟨r, h⟩ - hD hends
  exact (spec_disjuncts r).last fun hE hends' ↦ ⟨.disj hD hE, hends' hends⟩
termination_by 4 * ts.length + 3

theorem spec_disjuncts (ts : List Token) :
    Spec build fault (⟨·, false⟩) Grammar.Disjuncts
      (fun r ↦ endsConjunction ts = true → endsDisjunction r) ts (disjuncts build fault ts) := by
  rw [disjuncts.eq_def]
  split
  case h_1 i us =>
    refine .token (⟨·, true⟩) (fun _ ↦ rfl) rfl ?_
    refine (spec_conjunction us).bind (fun hD opened ↦ hD.run opened true) ?_
    rintro used vs p ⟨r, h⟩ - hD hends
    exact (spec_disjuncts r).last fun hE hends' ↦ ⟨.cons hD hE, fun _ ↦ hends' hends⟩
  case h_2 h => exact .pure _ .nil fun he ↦ endsDisjunction_of_not_or he h
termination_by 4 * ts.length + 2
decreasing_by all_goals subst_vars; simp only [List.length_cons]; omega

theorem spec_conjunction (ts : List Token) :
    Spec build fault (⟨·, true⟩) Grammar.Conjunction (endsConjunction · = true) ts
      (conjunction build fault ts) := by
  rw [conjunction]
  refine (spec_negation ts).bind (fun hD opened ↦ hD.run opened true) ?_
  rintro used vs p ⟨r, h⟩ - hD -
  exact (spec_conjuncts r).last fun hE hends ↦ ⟨.conj hD hE, hends⟩
termination_by 4 * ts.length + 2

theorem spec_conjuncts (ts : List Token) :
    Spec build fault (⟨·, false⟩) Grammar.Conjuncts (endsConjunction · = true) ts
      (conjuncts build fault ts) := by
  rw [conjuncts]
  split
  case isTrue h => exact .pure _ .nil h
  case isFalse h =>
    have hle := dropAnd_length ts
    refine .behind_dropAnd h ?_
    refine (spec_negation (dropAnd ts)).bind (fun hD opened ↦ hD.run opened true) ?_
    rintro used vs p ⟨r, hr⟩ - hD -
    exact (spec_conjuncts r).last fun hE hends ↦ ⟨⟨.next hD hE, fun i ↦ .and hD hE⟩, hends⟩
termination_by 4 * ts.length + 2

theorem spec_negation (ts : List Token) :
    Spec build fault (⟨·, true⟩) Grammar.Negation (fun _ ↦ True) ts (negation build fault ts) := by
  rw [negation.eq_def]
  split
  case h_1 i us =>
    refine .token (⟨·, true⟩) (fun _ ↦ rfl) rfl ?_
    exact (spec_negation us).last fun hD _ ↦ ⟨.not hD, trivial⟩
  case h_2 hnot => exact spec_primary ts hnot
termination_by 4 * ts.length + 1

theorem spec_primary (ts : List Token) (hnot : ∀ i us, ts = ⟨.not, i⟩ :: us → False) :
    Spec build fault (⟨·, true⟩) Grammar.Negation (fun _ ↦ True) ts (primary build fault ts) := by
  rw [primary.eq_def]
  split
  case h_1 => exact .throw fun _ _ ↦ .wanting rfl
  case h_2 cl i us => exact .clause _ (fun _ ↦ .primary .clause) trivial
  case h_3 p us =>
    refine .token (fun opened ↦ ⟨p :: opened, true⟩) (fun _ ↦ rfl) rfl ?_
    refine ((spec_disjunction us).under p).bind (fun hD opened ↦ hD.run (p :: opened) true) ?_
    rintro used vs q ⟨r, h⟩ - hD hends
    match r with
    | [] => exact .throw fun _ _ ↦ .unclosed rfl
    | ⟨l, j⟩ :: r =>
      cases hends
      refine .token (⟨·, false⟩) (fun _ ↦ rfl) rfl ?_
      refine .pure _ ?_ trivial
      rw [List.append_nil]
      exact .primary (.group hD)
  case h_4 t us hc ho =>
    refine .throw fun _ _ ↦ .stuck ?_
    obtain ⟨l, i⟩ := t
    cases l with
    | openParen => exact (ho i rfl).elim
    | clause cl => exact (hc cl i rfl).elim
    | not => exact (hnot i us rfl).elim
    | and | or | closeParen => rfl
termination_by 4 * ts.length + 0

end

end Readers

end GroupSearch.Query
