import GroupSearch.Proofs.Building
import GroupSearch.Proofs.Sentence
import GroupSearch.Proofs.Unreadable

namespace GroupSearch

namespace Compiler

open Query

variable {σ : Type} (c : Compiler σ) {s t : σ} {ts : List Token}

/-- The clause at the place `k` stops the compilation, while those in front of it are built. -/
def FailsAt (s : σ) (ts : List Token) (k : Nat) (stop : Stop) : Prop :=
  ∃ cl i vs t, ts[k]? = some ⟨.clause cl, i⟩ ∧
    runFrom s ((clauses (ts.take k)).mapM c.clause) = (.ok vs, t) ∧
    (runFrom t (c.clause cl)).1 = .error stop

/-- At the place `k` the tokens cease to be the beginning of a sentence, or a clause stops the
compilation. -/
def Faulty (s : σ) (ts : List Token) (k : Nat) : Prop :=
  (k < ts.length ∧ ¬ Viable (ts.take (k + 1))) ∨ ∃ stop, c.FailsAt s ts k stop

def FirstFault (s : σ) (ts : List Token) (k : Nat) : Prop :=
  c.Faulty s ts k ∧ ∀ j < k, ¬ c.Faulty s ts j

/-- The outcome of a token list is the leftmost fault in it, or else what is missing at its end. -/
structure ReportsLeftmost (s : σ) (ts : List Token) (outcome : Except Defect Outcome) : Prop where
  clause {k i : Nat} {cl : Clause} : c.FirstFault s ts k → ts[k]? = some ⟨.clause cl, i⟩ →
    ∃ stop, c.FailsAt s ts k stop ∧ outcome = settled (.error stop)
  token {k : Nat} {t : Token} : c.FirstFault s ts k → ts[k]? = some t →
    (∀ cl, t.lexeme ≠ .clause cl) →
    t.lexeme ∈ [.and, .or, .closeParen] ∧
      outcome = .ok (.error ⟨.grammar,
        s!"Unexpected '{t.lexeme.symbol}' at position {t.position}"⟩)
  unfinished {t : Token} : (∀ k, ¬ c.Faulty s ts k) → ¬ Sentence ts → ts.getLast? = some t →
    t.lexeme ∈ [.openParen, .and, .or, .not] →
    outcome = .ok (.error ⟨.grammar, "Unexpected end of query"⟩)
  unclosed {t : Token} : (∀ k, ¬ c.Faulty s ts k) → ¬ Sentence ts → ts.getLast? = some t →
    t.lexeme ∉ [.openParen, .and, .or, .not] →
    ∃ p, InnermostOpen p ts ∧
      outcome = .ok (.error ⟨.grammar, s!"Missing ')' for '(' at position {p}"⟩)
  sentence : (∀ k, ¬ c.Faulty s ts k) → Sentence ts → ∃ p, outcome = .ok (.ok p)

/-- What ends the compilation of a token list, and at which place. -/
inductive Ends (s : σ) (ts : List Token) : Stop → Prop
  | token {k : Nat} {u : Token} : ts[k]? = some u → u.lexeme ∈ [.and, .or, .closeParen] →
      c.FirstFault s ts k → Ends s ts (.rejected (unexpected u))
  | clause {k : Nat} {stop : Stop} : c.FailsAt s ts k stop → c.FirstFault s ts k → Ends s ts stop
  | wanting {r : Reading} : Reading.start.run ts = some r → r.wanting = true →
      (∀ k, ¬ c.Faulty s ts k) → Ends s ts (.rejected .unexpectedEnd)
  | unclosed {p : Nat} {opened : List Nat} : Reading.start.run ts = some ⟨p :: opened, false⟩ →
      (∀ k, ¬ c.Faulty s ts k) → Ends s ts (.rejected (.unclosed p))

variable {c} {k : Nat}

theorem Faulty.lt (h : c.Faulty s ts k) : k < ts.length := by
  rcases h with ⟨hlt, -⟩ | ⟨stop, cl, i, vs, t, hk, -⟩
  · exact hlt
  · exact (List.getElem?_eq_some_iff.1 hk).1

theorem FirstFault.unique {j : Nat} (h : c.FirstFault s ts k) (h' : c.FirstFault s ts j) :
    k = j := by
  rcases Nat.lt_trichotomy k j with hlt | he | hlt
  · exact (h'.2 k hlt h.1).elim
  · exact he
  · exact (h.2 j hlt h'.1).elim

theorem take_eq_append {j k : Nat} (h : j ≤ k) :
    ts.take k = ts.take j ++ (ts.take k).drop j := by
  have hs := List.take_append_drop j (ts.take k)
  rw [List.take_take, Nat.min_eq_left h] at hs
  exact hs.symm

theorem not_faulty_of_built {vs : List Predicate} (hv : Viable (ts.take k))
    (hb : Built c.clause s (ts.take k) vs t) : ∀ j < k, ¬ c.Faulty s ts j := by
  rintro j hj (⟨-, hnv⟩ | ⟨stop, cl, i, ws, u, hcl, hw, hf⟩)
  · rw [take_eq_append hj] at hv
    exact hnv hv.of_append
  · -- The clause is one of those that have been built, from the same state.
    rw [take_eq_append hj, List.take_add_one, hcl, List.append_assoc, Built, clauses_append] at hb
    obtain ⟨us, vs', t', -, hus, hvs'⟩ := runFrom_mapM_append_eq_ok.1 hb
    cases hw.symm.trans hus
    obtain ⟨p, ps, t'', -, hp, -⟩ := runFrom_mapM_cons_eq_ok.1 hvs'
    rw [hp] at hf
    cases hf

theorem faultless_of_built {vs : List Predicate} (hv : Viable ts) (hb : Built c.clause s ts vs t) :
    ∀ k, ¬ c.Faulty s ts k := by
  intro k hk
  rw [← List.take_length (l := ts)] at hv hb
  exact not_faulty_of_built hv hb k hk.lt hk

theorem firstFault_of_stuck {before after : List Token} {r : Reading} {u : Token}
    {vs : List Predicate} (hr : Reading.start.run before = some r) (hu : r.step u = none)
    (hb : Built c.clause s before vs t) :
    c.FirstFault s (before ++ u :: after) before.length := by
  have hv : Viable before := viable_iff_run.2 ⟨r, hr⟩
  have hk : (before ++ u :: after)[before.length]? = some u := by simp
  have ht : (before ++ u :: after).take before.length = before := List.take_left
  refine ⟨.inl ⟨by simp, ?_⟩, ?_⟩
  · rw [List.take_add_one, hk, ht, viable_iff_run, Reading.run_append, hr]
    simp [hu]
  · exact not_faulty_of_built (ht.symm ▸ hv) (ht.symm ▸ hb)

theorem failsAt_of_built {before after : List Token} {cl : Clause} {i : Nat} {vs : List Predicate}
    {stop : Stop} (hb : Built c.clause s before vs t)
    (he : (runFrom t (c.clause cl)).1 = .error stop) :
    c.FailsAt s (before ++ ⟨.clause cl, i⟩ :: after) before.length stop := by
  have hk : (before ++ ⟨.clause cl, i⟩ :: after)[before.length]? = some ⟨.clause cl, i⟩ := by simp
  have ht : (before ++ ⟨.clause cl, i⟩ :: after).take before.length = before := List.take_left
  exact ⟨cl, i, vs, t, hk, ht.symm ▸ hb, he⟩

theorem firstFault_of_failsAt {before after : List Token} {vs : List Predicate} {stop : Stop}
    (hv : Viable before) (hb : Built c.clause s before vs t)
    (hf : c.FailsAt s (before ++ after) before.length stop) :
    c.FirstFault s (before ++ after) before.length := by
  have ht : (before ++ after).take before.length = before := List.take_left
  exact ⟨.inr ⟨stop, hf⟩, not_faulty_of_built (ht.symm ▸ hv) (ht.symm ▸ hb)⟩

theorem ends_of_tokens {stop : Stop} (h : runFrom s (c.tokens ts) = (.error stop, t)) :
    c.Ends s ts stop := by
  obtain ⟨before, after, r, vs, s', rfl, hr, hb, hh⟩ := stops_of_ofTokens h
  have hv : Viable before := viable_iff_run.2 ⟨r, hr⟩
  cases hh with
  | @stuck u after hu =>
    exact .token (by simp) (Reading.stops_at hu) (firstFault_of_stuck hr hu hb)
  | @clause cl i after _ _ he =>
    have hf : c.FailsAt s (before ++ ⟨.clause cl, i⟩ :: after) before.length stop :=
      failsAt_of_built hb (by rw [he])
    exact .clause hf (firstFault_of_failsAt hv hb hf)
  | wanting hw =>
    rw [List.append_nil]
    exact .wanting hr hw (faultless_of_built hv hb)
  | unclosed hp =>
    rw [List.append_nil]
    exact .unclosed (hp ▸ hr) (faultless_of_built hv hb)

theorem wanting_iff_of_run {r : Reading} {u : Token} (hr : Reading.start.run ts = some r)
    (hu : ts.getLast? = some u) :
    r.wanting = true ↔ u.lexeme ∈ [.openParen, .and, .or, .not] := by
  obtain ⟨us, rfl⟩ := List.getLast?_eq_some_iff.1 hu
  rw [Reading.run_append] at hr
  obtain ⟨r', -, hr⟩ := Option.bind_eq_some_iff.1 hr
  rw [Reading.run_cons] at hr
  obtain ⟨r'', hs, hr⟩ := Option.bind_eq_some_iff.1 hr
  cases hr
  exact Reading.wanting_iff_of_step hs

theorem sentence_of_ok {p : Predicate} (h : runFrom s (c.tokens ts) = (.ok p, t)) :
    Sentence ts ∧ ∀ k, ¬ c.Faulty s ts k := by
  obtain ⟨vs, hb, hd⟩ := derivation_of_ofTokens h
  have hr : Reading.start.run ts = some ⟨[], false⟩ := hd.run [] true
  exact ⟨sentence_iff_run.2 hr, faultless_of_built (viable_iff_run.2 ⟨_, hr⟩) hb⟩

theorem Ends.eq_of_firstFault {stop : Stop} (h : c.Ends s ts stop) (hk : c.FirstFault s ts k) :
    (∃ u, ts[k]? = some u ∧ u.lexeme ∈ [.and, .or, .closeParen] ∧
        stop = .rejected (unexpected u)) ∨ c.FailsAt s ts k stop := by
  cases h with
  | token hu hmem hj =>
    obtain rfl := hk.unique hj
    exact .inl ⟨_, hu, hmem, rfl⟩
  | clause hf hj =>
    obtain rfl := hk.unique hj
    exact .inr hf
  | wanting _ _ hn | unclosed _ hn => exact (hn k hk.1).elim

theorem Ends.of_faultless {stop : Stop} (h : c.Ends s ts stop) (hn : ∀ k, ¬ c.Faulty s ts k) :
    (∃ r, Reading.start.run ts = some r ∧ r.wanting = true ∧ stop = .rejected .unexpectedEnd) ∨
      ∃ p opened, Reading.start.run ts = some ⟨p :: opened, false⟩ ∧
        stop = .rejected (.unclosed p) := by
  cases h with
  | token _ _ hk => exact (hn _ hk.1).elim
  | clause _ hk => exact (hn _ hk.1).elim
  | wanting hr hw _ => exact .inl ⟨_, hr, hw, rfl⟩
  | unclosed hr _ => exact .inr ⟨_, _, hr, rfl⟩

theorem reportsLeftmost (c : Compiler σ) (s : σ) (ts : List Token) :
    c.ReportsLeftmost s ts (settled (runFrom s (c.tokens ts)).1) := by
  rcases ho : runFrom s (c.tokens ts) with ⟨stop | p, t⟩
  · have he := ends_of_tokens ho
    constructor
    case clause =>
      intro k i cl hk hcl
      rcases he.eq_of_firstFault hk with ⟨u, hu, hmem, -⟩ | hf
      · cases hcl.symm.trans hu
        simp at hmem
      · exact ⟨stop, hf, rfl⟩
    case token =>
      intro k u hk hu hcl
      rcases he.eq_of_firstFault hk with ⟨u', hu', hmem, rfl⟩ | ⟨cl, i, -, -, hu', -⟩
      · cases hu.symm.trans hu'
        exact ⟨hmem, rfl⟩
      · cases hu.symm.trans hu'
        exact (hcl cl rfl).elim
    case unfinished =>
      intro u hn _ hu hmem
      rcases he.of_faultless hn with ⟨r, -, -, rfl⟩ | ⟨p, opened, hr, -⟩
      · rfl
      · cases (wanting_iff_of_run hr hu).2 hmem
    case unclosed =>
      intro u hn _ hu hmem
      rcases he.of_faultless hn with ⟨r, hr, hw, -⟩ | ⟨p, opened, hr, rfl⟩
      · exact (hmem ((wanting_iff_of_run hr hu).1 hw)).elim
      · exact ⟨p, innermostOpen_of_run hr, rfl⟩
    case sentence =>
      intro hn hs
      rw [sentence_iff_run] at hs
      rcases he.of_faultless hn with ⟨r, hr, hw, -⟩ | ⟨p, opened, hr, -⟩
      · cases hs.symm.trans hr
        cases hw
      · cases hs.symm.trans hr
  · obtain ⟨hs, hn⟩ := sentence_of_ok ho
    constructor
    case clause => exact fun hk _ ↦ (hn _ hk.1).elim
    case token => exact fun hk _ _ ↦ (hn _ hk.1).elim
    case unfinished => exact fun _ hs' _ _ ↦ (hs' hs).elim
    case unclosed => exact fun _ hs' _ _ ↦ (hs' hs).elim
    case sentence => exact fun _ _ ↦ ⟨p, rfl⟩

/-- A text that cannot be split into tokens is reported for that, one without tokens for being
empty, and of any other the tokens decide, by the leftmost fault among them. -/
theorem leftmost_fault_reported (c : Compiler σ) (s : σ) (text : Option String) :
    (∀ cause, Token.read (text.getD "") = .error cause →
      cause.kind = .grammar ∧ (runFrom s (c.parse text)).1 = .ok (.error cause.failure)) ∧
    (Token.read (text.getD "") = .ok [] →
      (runFrom s (c.parse text)).1 = .ok (.error ⟨.grammar, "query is empty"⟩)) ∧
    (∀ ts, ts ≠ [] → Token.read (text.getD "") = .ok ts →
      (runFrom s (c.parse text)).1 = settled (runFrom s (c.tokens ts)).1) ∧
    ∀ ts, ts ≠ [] → c.ReportsLeftmost s ts (settled (runFrom s (c.tokens ts)).1) := by
  rw [parse_eq_settled]
  unfold query
  refine ⟨fun cause h ↦ ⟨Token.kind_of_readFrom h, ?_⟩, fun h ↦ ?_, fun ts hts h ↦ ?_,
    fun ts _ ↦ reportsLeftmost c s ts⟩
  · rw [h]
    rfl
  · rw [h]
    rfl
  · rw [h]
    cases ts with
    | nil => exact (hts rfl).elim
    | cons t ts => rfl

end Compiler

end GroupSearch
