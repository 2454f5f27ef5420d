import GroupSearch.Proofs.Sentence

namespace GroupSearch.Query

variable {ε σ α β : Type}

def NextIn (ls : List Lexeme) (ts : List Token) : Prop := ∀ t ∈ ts.head?, t.lexeme ∈ ls

def between (ts : List Token) (i j : Nat) : List Token := (ts.take j).drop i

/-- Whenever the reader of the tokens from a place on returns, it leaves those from a later place
on, and what it has done is to build the clauses in between. The parentheses in between have their
partners there. -/
def Advances (build : Clause → ExceptT ε (StateM σ) (Formula α)) (ts : List Token) (i : Nat)
    (next : List Token → Prop)
    (x : ExceptT ε (StateM σ) (Formula α × Shorter (ts.drop i))) : Prop :=
  ∀ s t p r, runFrom s x = (.ok (p, r), t) → ∃ j, i < j ∧ j ≤ ts.length ∧ r.1 = ts.drop j ∧
    next r.1 ∧ Matched (between ts i j) ∧ ∃ vs, Built build s (between ts i j) vs t

theorem nextIn_of_endsDisjunction {ts : List Token} (h : endsDisjunction ts) :
    NextIn [.closeParen] ts := by
  cases ts with
  | nil => nofun
  | cons t ts =>
    intro u hu
    cases hu
    exact List.mem_singleton.2 h

theorem nextIn_of_endsConjunction {ts : List Token} (h : endsConjunction ts = true) :
    NextIn [.or, .closeParen] ts := by
  cases ts with
  | nil => nofun
  | cons t ts =>
    intro u hu
    cases hu
    simpa [endsConjunction] using h

theorem matched_of_run {ts : List Token} {wanting wanting' : Bool}
    (h : Reading.run ⟨[], wanting⟩ ts = some ⟨[], wanting'⟩) : Matched ts := by
  have hl : Leaves ([] ++ ts) [] := Leaves.run (r := ⟨[], wanting⟩) (.matched .nil) h
  cases hl with
  | matched h => exact h

theorem between_of_drop {ts used rest : List Token} {i : Nat} (h : ts.drop i = used ++ rest) :
    between ts i (i + used.length) = used ∧ rest = ts.drop (i + used.length) := by
  constructor
  · rw [between, List.drop_take, h, Nat.add_sub_cancel_left, List.take_left]
  · rw [← List.drop_drop, h, List.drop_left]

variable {build : Clause → ExceptT ε (StateM σ) (Formula α)} {fault : Cause → ε} {ts : List Token}
  {i : Nat} {s t : σ}

theorem Spec.advances {ends next : List Token → Prop}
    {stands : List Token → List (Formula α) → Formula α → Prop}
    {x : ExceptT ε (StateM σ) (Formula α × Shorter (ts.drop i))}
    (h : Spec build fault (⟨·, true⟩) stands ends (ts.drop i) x)
    (hrun : ∀ {used vs p}, stands used vs p → Reading.run ⟨[], true⟩ used = some ⟨[], false⟩)
    (hnext : ∀ {r}, ends r → next r) : Advances build ts i next x := by
  intro s t p r hr
  obtain ⟨used, vs, hts, hb, hstands, hends⟩ := h.ok hr
  obtain ⟨hused, hrest⟩ := between_of_drop hts
  -- The rest is shorter than what was there, so something has been used.
  have hlen : ts.length - i = used.length + r.1.length := by
    rw [← List.length_drop, ← List.length_append, ← hts]
  have hshorter : r.1.length < ts.length - i := Nat.lt_of_lt_of_eq r.2 List.length_drop
  refine ⟨i + used.length, by omega, by omega, hrest, hnext hends, ?_, vs, ?_⟩
  · rw [hused]
    exact matched_of_run (hrun hstands)
  · rw [hused]
    exact hb

variable (build fault ts i)

theorem disjunction_advances :
    Advances build ts i (NextIn [.closeParen]) (disjunction build fault (ts.drop i)) :=
  (spec_disjunction build fault (ts.drop i)).advances (fun h ↦ h.run [] true)
    nextIn_of_endsDisjunction

theorem conjunction_advances :
    Advances build ts i (NextIn [.or, .closeParen]) (conjunction build fault (ts.drop i)) :=
  (spec_conjunction build fault (ts.drop i)).advances (fun h ↦ h.run [] true)
    nextIn_of_endsConjunction

theorem negation_advances :
    Advances build ts i (fun _ ↦ True) (negation build fault (ts.drop i)) :=
  (spec_negation build fault (ts.drop i)).advances (fun h ↦ h.run [] true) id

theorem primary_advances :
    Advances build ts i (fun _ ↦ True) (primary build fault (ts.drop i)) := by
  by_cases hnot : ∃ p us, ts.drop i = ⟨.not, p⟩ :: us
  · -- No primary starts with a negation.
    obtain ⟨p, us, hts⟩ := hnot
    intro s t q r hr
    have hfails (vs : List Token) (hvs : vs = ⟨.not, p⟩ :: us) (r : Formula α × Shorter vs) :
        runFrom s (primary build fault vs) ≠ (.ok r, t) := by
      subst hvs
      rw [primary.eq_def]
      nofun
    exact (hfails _ hts _ hr).elim
  · have hspec := spec_primary build fault (ts.drop i) fun p us h ↦ hnot ⟨p, us, h⟩
    exact hspec.advances (fun h ↦ h.run [] true) id

variable {build fault ts} {us : List Token} {p : Formula α} {r : Shorter ts}

theorem eq_of_nextIn {l : Lexeme} (h : NextIn [l] us) :
    us = [] ∨ ∃ k rest, us = ⟨l, k⟩ :: rest := by
  cases us with
  | nil => exact .inl rfl
  | cons t rest =>
    obtain ⟨l', k⟩ := t
    have hl : l' = l := List.mem_singleton.1 (h _ rfl)
    exact .inr ⟨k, rest, by rw [hl]⟩

/-- A disjunction is read up to the end of the tokens or to a closing parenthesis that has no
partner in front of it. -/
theorem disjunction_ends (h : runFrom s (disjunction build fault ts) = (.ok (p, r), t)) :
    r.1 = [] ∨ ∃ j k rest, r.1 = ⟨.closeParen, k⟩ :: rest ∧ r.1 = ts.drop j ∧
      Matched (ts.take j) := by
  obtain ⟨j, -, -, hrest, hnext, hmatched, -⟩ := disjunction_advances build fault ts 0 s t p r h
  rcases eq_of_nextIn hnext with hnil | ⟨k, rest, hr⟩
  · exact .inl hnil
  · exact .inr ⟨j, k, rest, hr, hrest, hmatched⟩

theorem primary_of_unclosed (i : Nat) {h}
    (hp : runFrom s (disjunction build fault ts) = (.ok (p, ⟨[], h⟩), t)) :
    runFrom s (primary build fault (⟨.openParen, i⟩ :: ts)) =
      (.error (fault (.unclosed i)), t) := by
  rw [primary]
  exact runFrom_bind_eq_error.2 (.inr ⟨_, t, hp, rfl⟩)

theorem ofTokens_of_leftover {x : Token} {h}
    (hp : runFrom s (disjunction build fault ts) = (.ok (p, ⟨x :: us, h⟩), t)) :
    runFrom s (ofTokens build fault ts) = (.error (fault (unexpected x)), t) :=
  runFrom_bind_eq_error.2 (.inr ⟨_, t, hp, rfl⟩)

/-- What can go wrong with a parenthesis: what stands in it is not read, or it is read and the
tokens end there. -/
theorem primary_group_eq_error_iff (i : Nat) {e : ε} :
    runFrom s (primary build fault (⟨.openParen, i⟩ :: ts)) = (.error e, t) ↔
      runFrom s (disjunction build fault ts) = (.error e, t) ∨
        e = fault (.unclosed i) ∧
          ∃ p r, runFrom s (disjunction build fault ts) = (.ok (p, r), t) ∧ r.1 = [] := by
  constructor
  · intro h
    rcases hd : runFrom s (disjunction build fault ts) with ⟨e' | ⟨p, ⟨r, hr⟩⟩, t'⟩
    · left
      have hg : runFrom s (primary build fault (⟨.openParen, i⟩ :: ts)) = (.error e', t') := by
        rw [primary]
        exact runFrom_bind_eq_error.2 (.inl hd)
      cases hg.symm.trans h
      rfl
    · right
      rcases disjunction_ends hd with hnil | ⟨j, k, rest, hclose, -⟩
      · subst hnil
        have hg := (primary_of_unclosed i hd).symm.trans h
        cases hg
        exact ⟨rfl, p, _, rfl, rfl⟩
      · subst hclose
        obtain ⟨hlen, hg⟩ := primary_of_ok i k hd
        cases hg.symm.trans h
  · intro h
    rcases h with h | ⟨he, p, ⟨r, hr⟩, hd, hnil⟩
    · rw [primary]
      exact runFrom_bind_eq_error.2 (.inl h)
    · subst he hnil
      exact primary_of_unclosed i hd

/-- What can go wrong with a query: it is not read as a disjunction, or it is and what is left over
starts with a closing parenthesis without a partner. -/
theorem ofTokens_eq_error_iff {e : ε} :
    runFrom s (ofTokens build fault ts) = (.error e, t) ↔
      runFrom s (disjunction build fault ts) = (.error e, t) ∨
        ∃ j k rest, e = fault (unexpected ⟨.closeParen, k⟩) ∧
          ts.drop j = ⟨.closeParen, k⟩ :: rest ∧ Matched (ts.take j) ∧
          ∃ p r, runFrom s (disjunction build fault ts) = (.ok (p, r), t) ∧ r.1 = ts.drop j := by
  constructor
  · intro h
    rcases runFrom_bind_eq_error.1 h with hd | ⟨⟨p, ⟨r, hr⟩⟩, t', hd, hf⟩
    · exact .inl hd
    · right
      rcases disjunction_ends hd with hnil | ⟨j, k, rest, hclose, hrest, hmatched⟩
      · subst hnil
        cases hf
      · subst hclose
        cases hf
        exact ⟨j, k, rest, rfl, hrest.symm, hmatched, p, _, hd, hrest⟩
  · intro h
    rcases h with hd | ⟨j, k, rest, he, hclose, -, p, ⟨r, hr⟩, hd, hrest⟩
    · exact runFrom_bind_eq_error.2 (.inl hd)
    · have hleft : r = ⟨.closeParen, k⟩ :: rest := hrest.trans hclose
      subst he hleft
      exact ofTokens_of_leftover hd

/-- Whatever the tokens are, how clauses are built and where it starts, a reader that returns has
gone on by at least one token: a disjunction to the end or in front of a closing parenthesis, a
conjunction also in front of an `OR`. So a parenthesis is reported as unclosed only at the end of
the tokens, and the only token that is refused behind all that could be read is a closing
parenthesis without a partner. -/
theorem readers_advance (build : Clause → ExceptT ε (StateM σ) (Formula α)) (fault : Cause → ε)
    (ts : List Token) :
    (∀ i, Advances build ts i (NextIn [.closeParen]) (disjunction build fault (ts.drop i)) ∧
      Advances build ts i (NextIn [.or, .closeParen]) (conjunction build fault (ts.drop i)) ∧
      Advances build ts i (fun _ ↦ True) (negation build fault (ts.drop i)) ∧
      Advances build ts i (fun _ ↦ True) (primary build fault (ts.drop i))) ∧
    (∀ i s e t, runFrom s (primary build fault (⟨.openParen, i⟩ :: ts)) = (.error e, t) ↔
      runFrom s (disjunction build fault ts) = (.error e, t) ∨
        e = fault (.unclosed i) ∧
          ∃ p r, runFrom s (disjunction build fault ts) = (.ok (p, r), t) ∧ r.1 = []) ∧
    ∀ s e t, runFrom s (ofTokens build fault ts) = (.error e, t) ↔
      runFrom s (disjunction build fault ts) = (.error e, t) ∨
        ∃ j k rest, e = fault (unexpected ⟨.closeParen, k⟩) ∧
          ts.drop j = ⟨.closeParen, k⟩ :: rest ∧ Matched (ts.take j) ∧
          ∃ p r, runFrom s (disjunction build fault ts) = (.ok (p, r), t) ∧ r.1 = ts.drop j := by
  refine ⟨fun i ↦ ⟨?_, ?_, ?_, ?_⟩, fun i s e t ↦ ?_, fun s e t ↦ ?_⟩
  · exact disjunction_advances build fault ts i
  · exact conjunction_advances build fault ts i
  · exact negation_advances build fault ts i
  · exact primary_advances build fault ts i
  · exact primary_group_eq_error_iff i
  · exact ofTokens_eq_error_iff

end GroupSearch.Query
