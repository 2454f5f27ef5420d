import GroupSearch.Compiler
import GroupSearch.Proofs.Completeness

namespace GroupSearch

namespace Query

variable {ε σ α : Type} {build : Clause → ExceptT ε (StateM σ) (Formula α)} {fault : Cause → ε}
  {s t : σ} {ts : List Token} {p : Formula α}

theorem derivation_of_ofTokens (h : runFrom s (ofTokens build fault ts) = (.ok p, t)) :
    ∃ vs, Built build s ts vs t ∧ Grammar.Disjunction ts vs p := by
  obtain ⟨⟨q, r, hr⟩, t', hq, h⟩ := runFrom_bind_eq_ok.1 h
  obtain ⟨used, vs, hts, hb, hd, -⟩ := (spec_disjunction build fault ts).ok hq
  cases r with
  | nil =>
    cases h
    rw [List.append_nil] at hts
    exact ⟨vs, hts ▸ hb, hts ▸ hd⟩
  | cons x r => cases h

theorem stops_of_ofTokens {e : ε} (h : runFrom s (ofTokens build fault ts) = (.error e, t)) :
    Stops build fault .start s ts e t := by
  rcases runFrom_bind_eq_error.1 h with hq | ⟨⟨q, r, hr⟩, t', hq, h⟩
  · exact (spec_disjunction build fault ts).error hq []
  · obtain ⟨used, vs, hts, hb, hd, hends⟩ := (spec_disjunction build fault ts).ok hq
    cases r with
    | nil => cases h
    | cons x r =>
      -- What is left starts with a closing parenthesis, and none is open.
      cases h
      obtain ⟨l, i⟩ := x
      cases hends
      exact ⟨used, _, _, vs, _, hts, hd.run [] true, hb, .stuck rfl⟩

variable (fault) in
theorem ofTokens_of_derivation {vs : List (Formula α)} (h : Grammar.Disjunction ts vs p)
    (hb : Built build s ts vs t) : runFrom s (ofTokens build fault ts) = (.ok p, t) := by
  obtain ⟨_, hp⟩ := h.reads [] hb trivial
  have ho : runFrom s (ofTokens build fault (ts ++ [])) = (.ok p, t) :=
    runFrom_bind_eq_ok.2 ⟨_, t, hp, rfl⟩
  rwa [List.append_nil] at ho

end Query

namespace Grammar

variable {α : Type}

def supply (_ : Clause) : ExceptT Unit (StateM (List (Formula α))) (Formula α) := do
  match ← get with
  | [] => throw ()
  | v :: vs => set vs; return v

theorem runFrom_mapM_supply {cls : List Clause} {vs : List (Formula α)}
    (h : vs.length = cls.length) (rest : List (Formula α)) :
    runFrom (vs ++ rest) (cls.mapM supply) = (.ok vs, rest) := by
  induction cls generalizing vs with
  | nil =>
    obtain rfl := List.length_eq_zero_iff.1 h
    rfl
  | cons cl cls ih =>
    match vs, h with
    | v :: vs, h =>
      exact runFrom_mapM_cons_eq_ok.2 ⟨v, vs, vs ++ rest, rfl, rfl, ih (Nat.succ.inj h)⟩

/-- Two values would be read from the same tokens when the clauses are built alike. -/
theorem Disjunction.unique {ts : List Token} {vs : List (Formula α)} {p p' : Formula α}
    (h : Disjunction ts vs p) (h' : Disjunction ts vs p') : p = p' := by
  have hs : Query.Built supply (vs ++ []) ts vs [] := runFrom_mapM_supply h.length_values []
  have hp := Query.ofTokens_of_derivation (fun _ ↦ ()) h hs
  have hp' := Query.ofTokens_of_derivation (fun _ ↦ ()) h' hs
  exact Except.ok.inj (Prod.mk.inj (hp.symm.trans hp')).1

end Grammar

namespace Compiler

variable {σ : Type} (c : Compiler σ)

theorem derivation_of_tokens {ts : List Token} {s t : σ} {p : Predicate}
    (h : runFrom s (c.tokens ts) = (.ok p, t)) :
    ∃ vs, runFrom s ((Query.clauses ts).mapM c.clause) = (.ok vs, t) ∧
      Grammar.Disjunction ts vs p :=
  Query.derivation_of_ofTokens h

theorem tokens_of_derivation {ts : List Token} {vs : List Predicate} {s t : σ} {p : Predicate}
    (h : Grammar.Disjunction ts vs p)
    (hvs : runFrom s ((Query.clauses ts).mapM c.clause) = (.ok vs, t)) :
    runFrom s (c.tokens ts) = (.ok p, t) :=
  Query.ofTokens_of_derivation Stop.rejected h hvs

/-- Where every clause can be built, the tokens compile to exactly what the grammar derives from
them, and the grammar never derives two formulas from the same tokens. -/
theorem tokens_recognise_grammar (ts : List Token) (vs : List Predicate) (s s' : σ)
    (hvs : runFrom s ((Query.clauses ts).mapM c.clause) = (.ok vs, s')) :
    (∀ p, (runFrom s (c.tokens ts)).1 = .ok p ↔ Grammar.Disjunction ts vs p) ∧
      ∀ (ws : List Predicate) (p p' : Predicate), Grammar.Disjunction ts ws p →
        Grammar.Disjunction ts ws p' → p = p' := by
  refine ⟨fun p ↦ ⟨fun hp ↦ ?_, fun hp ↦ ?_⟩, fun ws p p' ↦ Grammar.Disjunction.unique⟩
  · obtain ⟨ws, hws, hd⟩ := c.derivation_of_tokens (Prod.ext hp rfl)
    obtain rfl : vs = ws := Except.ok.inj (Prod.mk.inj (hvs.symm.trans hws)).1
    exact hd
  · rw [c.tokens_of_derivation hp hvs]

/-- Without any accounts or groups, the tokens of `name:a NOT (b OR c)`. -/
theorem tokens_recognise_negated_group :
    let lookups : Lookups Unit :=
      ⟨fun _ ↦ pure [], fun _ ↦ pure none, fun _ ↦ pure [], fun _ s ↦ s⟩
    let ts : List Token :=
      [⟨.clause (.operator "name" "a"), 0⟩, ⟨.not, 7⟩, ⟨.openParen, 11⟩, ⟨.clause (.term "b"), 12⟩,
        ⟨.or, 14⟩, ⟨.clause (.term "c"), 17⟩, ⟨.closeParen, 18⟩]
    let vs : List Predicate := [nameIs "a", term "b", term "c"]
    runFrom () ((Query.clauses ts).mapM (Compiler.mk .v2 lookups).clause) = (.ok vs, ()) ∧
      (runFrom () ((Compiler.mk .v2 lookups).tokens ts)).1 =
        .ok (.all (nameIs "a") [.not (.any (term "b") [term "c"])]) := by
  intro lookups ts vs
  have hvs : runFrom () ((Query.clauses ts).mapM (Compiler.mk .v2 lookups).clause) =
    (.ok vs, ()) := rfl
  have hg : Grammar.Disjunction ts vs (.all (nameIs "a") [.not (.any (term "b") [term "c"])]) :=
    .single (.several (.primary .clause) (.next (.not (.primary (.group
      (.several (.single (.primary .clause)) (.cons (.single (.primary .clause)) .nil))))) .nil))
  exact ⟨hvs, ((tokens_recognise_grammar _ ts vs () () hvs).1 _).2 hg⟩

end Compiler

end GroupSearch
