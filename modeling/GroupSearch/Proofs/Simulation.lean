import GroupSearch.Proofs.Building

namespace GroupSearch

variable {ε σ τ α β : Type}

/-- A relation between computations that sequences hand on, when both go on with the same value. -/
structure Sequential
    (Rel : (α : Type) → ExceptT ε (StateM σ) α → ExceptT ε (StateM τ) α → Prop) : Prop where
  pure {α : Type} (a : α) : Rel α (Pure.pure a) (Pure.pure a)
  throw {α : Type} (e : ε) : Rel α (MonadExcept.throw e) (MonadExcept.throw e)
  bind {α β : Type} {x : ExceptT ε (StateM σ) α} {y : ExceptT ε (StateM τ) α}
    {f : α → ExceptT ε (StateM σ) β} {g : α → ExceptT ε (StateM τ) β} :
    Rel α x y → (∀ a, Rel β (f a) (g a)) → Rel β (x >>= f) (y >>= g)

theorem Sequential.last
    {Rel : (α : Type) → ExceptT ε (StateM σ) α → ExceptT ε (StateM τ) α → Prop}
    (h : Sequential Rel) {x : ExceptT ε (StateM σ) α} {y : ExceptT ε (StateM τ) α} {f : α → β}
    (hx : Rel α x y) :
    Rel β (x >>= fun a ↦ Pure.pure (f a)) (y >>= fun a ↦ Pure.pure (f a)) :=
  h.bind hx fun a ↦ h.pure (f a)

/-- From related states both computations come to the same result, in related states. -/
def Alike (R : σ → τ → Prop) (x : ExceptT ε (StateM σ) α) (y : ExceptT ε (StateM τ) α) : Prop :=
  ∀ s t, R s t → (runFrom s x).1 = (runFrom t y).1 ∧ R (runFrom s x).2 (runFrom t y).2

namespace Alike

variable {R : σ → τ → Prop} {x : ExceptT ε (StateM σ) α} {y : ExceptT ε (StateM τ) α}

theorem pure (a : α) : Alike R (Pure.pure a : ExceptT ε (StateM σ) α) (Pure.pure a) :=
  fun _ _ h ↦ ⟨rfl, h⟩

theorem throw (e : ε) : Alike R (MonadExcept.throw e : ExceptT ε (StateM σ) α)
    (MonadExcept.throw e) :=
  fun _ _ h ↦ ⟨rfl, h⟩

theorem flip (h : Alike R x y) : Alike (fun t s ↦ R s t) y x :=
  fun t s hr ↦ ⟨(h s t hr).1.symm, (h s t hr).2⟩

theorem bind {f : α → ExceptT ε (StateM σ) β} {g : α → ExceptT ε (StateM τ) β}
    (hx : Alike R x y) (hf : ∀ a, Alike R (f a) (g a)) : Alike R (x >>= f) (y >>= g) := by
  intro s t h
  obtain ⟨hv, hr⟩ := hx s t h
  rw [runFrom_bind, runFrom_bind]
  rcases hs : runFrom s x with ⟨e | a, s'⟩ <;> rcases ht : runFrom t y with ⟨e' | b, t'⟩ <;>
    rw [hs, ht] at hv hr <;> cases hv
  · exact ⟨rfl, hr⟩
  · exact hf a s' t' hr

theorem sequential (R : σ → τ → Prop) : Sequential (ε := ε) fun _ ↦ Alike R :=
  ⟨pure, throw, bind⟩

theorem last {f : α → β} (h : Alike R x y) :
    Alike R (x >>= fun a ↦ Pure.pure (f a)) (y >>= fun a ↦ Pure.pure (f a)) :=
  (sequential R).last h

theorem map {f : α → β} (h : Alike R x y) : Alike R (f <$> x) (f <$> y) := by
  rw [map_eq_pure_bind, map_eq_pure_bind]
  exact h.last

theorem mapM {f : β → ExceptT ε (StateM σ) α} {g : β → ExceptT ε (StateM τ) α}
    (h : ∀ b, Alike R (f b) (g b)) (bs : List β) : Alike R (bs.mapM f) (bs.mapM g) := by
  induction bs with
  | nil => exact .pure []
  | cons b bs ih =>
    rw [List.mapM_cons, List.mapM_cons]
    exact (h b).bind fun _ ↦ ih.last

theorem ite {b : Bool} {x' : ExceptT ε (StateM σ) α} {y' : ExceptT ε (StateM τ) α}
    (h : Alike R x y) (h' : Alike R x' y') :
    Alike R (if b then x else x') (if b then y else y') := by
  cases b with
  | false => exact h'
  | true => exact h

theorem modify {u : σ → σ} {v : τ → τ} (h : ∀ s t, R s t → R (u s) (v t)) :
    Alike R (modifyThe σ u : ExceptT ε (StateM σ) PUnit) (modifyThe τ v) :=
  fun s t hr ↦ ⟨rfl, h s t hr⟩

end Alike

namespace Query

variable {Rel : (α : Type) → ExceptT ε (StateM σ) α → ExceptT ε (StateM τ) α → Prop}
  {build : Clause → ExceptT ε (StateM σ) (Formula α)}
  {build' : Clause → ExceptT ε (StateM τ) (Formula α)} (fault : Cause → ε) (hRel : Sequential Rel)

include hRel

mutual

theorem disjunction_related (h : ∀ cl, Rel _ (build cl) (build' cl)) (ts : List Token) :
    Rel _ (disjunction build fault ts) (disjunction build' fault ts) := by
  rw [disjunction, disjunction]
  refine hRel.bind (conjunction_related h ts) ?_
  rintro ⟨p, r, hr⟩
  exact hRel.last (disjuncts_related h r)
termination_by 4 * ts.length + 3

theorem disjuncts_related (h : ∀ cl, Rel _ (build cl) (build' cl)) (ts : List Token) :
    Rel _ (disjuncts build fault ts) (disjuncts build' fault ts) := by
  rw [disjuncts.eq_def, disjuncts.eq_def]
  split
  case h_1 i us =>
    refine hRel.bind (conjunction_related h us) ?_
    rintro ⟨p, r, hr⟩
    exact hRel.last (disjuncts_related h r)
  case h_2 => exact hRel.pure _
termination_by 4 * ts.length + 2
decreasing_by all_goals subst_vars; simp only [List.length_cons]; omega

theorem conjunction_related (h : ∀ cl, Rel _ (build cl) (build' cl)) (ts : List Token) :
    Rel _ (conjunction build fault ts) (conjunction build' fault ts) := by
  rw [conjunction, conjunction]
  refine hRel.bind (negation_related h ts) ?_
  rintro ⟨p, r, hr⟩
  exact hRel.last (conjuncts_related h r)
termination_by 4 * ts.length + 2

theorem conjuncts_related (h : ∀ cl, Rel _ (build cl) (build' cl)) (ts : List Token) :
    Rel _ (conjuncts build fault ts) (conjuncts build' fault ts) := by
  rw [conjuncts, conjuncts]
  split
  case isTrue => exact hRel.pure _
  case isFalse =>
    have hle := dropAnd_length ts
    refine hRel.bind (negation_related h (dropAnd ts)) ?_
    rintro ⟨p, r, hr⟩
    exact hRel.last (conjuncts_related h r)
termination_by 4 * ts.length + 2

theorem negation_related (h : ∀ cl, Rel _ (build cl) (build' cl)) (ts : List Token) :
    Rel _ (negation build fault ts) (negation build' fault ts) := by
  rw [negation.eq_def, negation.eq_def]
  split
  case h_1 i us => exact hRel.last (negation_related h us)
  case h_2 => exact primary_related h ts
termination_by 4 * ts.length + 1

theorem primary_related (h : ∀ cl, Rel _ (build cl) (build' cl)) (ts : List Token) :
    Rel _ (primary build fault ts) (primary build' fault ts) := by
  rw [primary.eq_def, primary.eq_def]
  split
  case h_1 => exact hRel.throw _
  case h_2 cl i us => exact hRel.last (h cl)
  case h_3 i us =>
    refine hRel.bind (disjunction_related h us) ?_
    rintro ⟨p, r, hr⟩
    cases r with
    | nil => exact hRel.throw _
    | cons x r =>
      obtain ⟨l, j⟩ := x
      cases l with
      | closeParen => exact hRel.pure _
      | openParen | and | or | not | clause => exact hRel.throw _
  case h_4 => exact hRel.throw _
termination_by 4 * ts.length + 0

end

theorem ofTokens_related (h : ∀ cl, Rel _ (build cl) (build' cl)) (ts : List Token) :
    Rel _ (ofTokens build fault ts) (ofTokens build' fault ts) := by
  unfold ofTokens
  refine hRel.bind (disjunction_related fault hRel h ts) ?_
  rintro ⟨p, r, hr⟩
  cases r with
  | nil => exact hRel.pure _
  | cons t r => exact hRel.throw _

end Query

/-- Lookups that answer alike in related states, and take notes alike. Of a group that is found
only the uuid matters. -/
structure Lookups.Simulates (R : σ → τ → Prop) (l : Lookups σ) (m : Lookups τ) : Prop where
  accounts (reference : String) : Alike R (l.accounts reference) (m.accounts reference)
  group (reference : String) :
    Alike R (Option.map Group.uuid <$> l.group reference)
      (Option.map Group.uuid <$> m.group reference)
  suggestions (reference : String) : Alike R (l.suggestions reference) (m.suggestions reference)
  note (r : Log.Record) (s : σ) (t : τ) : R s t → R (l.note r s) (m.note r t)

namespace Compiler

variable {R : σ → τ → Prop} {schema : Schema} {l : Lookups σ} {m : Lookups τ}

theorem ofExcept_alike (r : Except Cause α) :
    Alike R (ofExcept r : Build σ α) (ofExcept r) := by
  cases r with
  | error cause => exact .throw _
  | ok a => exact .pure a

theorem liftExcept_alike (r : Except Stop α) :
    Alike R (MonadExcept.ofExcept r : Build σ α) (MonadExcept.ofExcept r) := by
  cases r with
  | error stop => exact .throw _
  | ok a => exact .pure a

variable (h : l.Simulates R m)

include h

theorem note_alike (level : Log.Level) (message : String) :
    Alike R (note ⟨schema, l⟩ level message) (note ⟨schema, m⟩ level message) :=
  .modify fun s t hr ↦ h.note _ s t hr

theorem ask_alike (referent : Referent) {x : Answer σ α} {y : Answer τ α} (hx : Alike R x y) :
    Alike R (ask ⟨schema, l⟩ referent x) (ask ⟨schema, m⟩ referent y) := by
  intro s t hr
  obtain ⟨hv, hr'⟩ := hx s t hr
  rw [runFrom_ask, runFrom_ask]
  rcases hs : runFrom s x with ⟨(reason | d) | a, s'⟩ <;>
    rcases ht : runFrom t y with ⟨(reason' | d') | b, t'⟩ <;>
    rw [hs, ht] at hv hr' <;> cases hv
  · exact ⟨rfl, h.note _ _ _ hr'⟩
  · exact ⟨rfl, hr'⟩
  · exact ⟨rfl, hr'⟩

theorem hasMember_alike (reference : String) :
    Alike R (hasMember ⟨schema, l⟩ reference) (hasMember ⟨schema, m⟩ reference) := by
  refine .ite ((ask_alike h .account (h.accounts reference)).bind fun ids ↦ ?_) (.throw _)
  cases idSet ids with
  | nil => exact .throw _
  | cons id ids => exact .pure _

theorem groupUuid_alike (reference : String) :
    Alike R (groupUuid ⟨schema, l⟩ reference) (groupUuid ⟨schema, m⟩ reference) := by
  rw [groupUuid_eq, groupUuid_eq]
  refine (ask_alike h .group (h.group reference)).bind fun found ↦ ?_
  cases found with
  | some uuid => exact .pure _
  | none =>
    refine (ask_alike h .group (h.suggestions reference)).bind fun suggestions ↦ ?_
    cases bestSuggestion suggestions reference with
    | none => exact .throw _
    | some r => exact (note_alike h _ _).last

theorem hasSubgroup_alike (reference : String) :
    Alike R (hasSubgroup ⟨schema, l⟩ reference) (hasSubgroup ⟨schema, m⟩ reference) :=
  .ite ((groupUuid_alike h reference).last) (.throw _)

theorem apply_alike (o : Operator) (value : String) :
    Alike R (apply ⟨schema, l⟩ o value) (apply ⟨schema, m⟩ o value) := by
  cases o with
  | uuid | inname | name => exact .pure _
  | description | is => exact ofExcept_alike _
  | limit => exact liftExcept_alike _
  | member => exact hasMember_alike h value
  | subgroup => exact hasSubgroup_alike h value

theorem operator_alike (keyword : String) (value : Option String) :
    Alike R (operator ⟨schema, l⟩ keyword value) (operator ⟨schema, m⟩ keyword value) := by
  unfold operator
  split
  · exact .throw _
  · split
    · exact .throw _
    · exact (note_alike h _ _).bind fun _ ↦ apply_alike h _ _

theorem clause_alike (cl : Clause) :
    Alike R (clause ⟨schema, l⟩ cl) (clause ⟨schema, m⟩ cl) := by
  cases cl with
  | operator keyword value => exact operator_alike h keyword value
  | term value => exact .pure _

theorem tokens_alike (ts : List Token) :
    Alike R (tokens ⟨schema, l⟩ ts) (tokens ⟨schema, m⟩ ts) :=
  Query.ofTokens_related Stop.rejected (Alike.sequential R) (clause_alike h) ts

theorem query_alike (text : Option String) :
    Alike R (query ⟨schema, l⟩ text) (query ⟨schema, m⟩ text) := by
  unfold query
  split
  · exact .throw _
  · exact .throw _
  · exact tokens_alike h _

theorem settle_alike (notice : Cause → Option Log.Record) {x : Build σ Predicate}
    {y : Build τ Predicate} (hx : Alike R x y) :
    Alike R (settle ⟨schema, l⟩ notice x) (settle ⟨schema, m⟩ notice y) := by
  intro s t hr
  obtain ⟨hv, hr'⟩ := hx s t hr
  rw [runFrom_settle, runFrom_settle]
  rcases hs : runFrom s x with ⟨(cause | d) | p, s'⟩ <;>
    rcases ht : runFrom t y with ⟨(cause' | d') | p', t'⟩ <;>
    rw [hs, ht] at hv hr' <;> cases hv
  · refine ⟨rfl, ?_⟩
    dsimp only
    cases notice cause with
    | none => exact hr'
    | some r => exact h.note _ _ _ hr'
  · exact ⟨rfl, hr'⟩
  · exact ⟨rfl, hr'⟩

theorem parse_alike (text : Option String) :
    Alike R (parse ⟨schema, l⟩ text) (parse ⟨schema, m⟩ text) :=
  settle_alike h _ (query_alike h text)

theorem compile_alike (text : Option String) :
    Alike R (compile ⟨schema, l⟩ text) (compile ⟨schema, m⟩ text) := by
  refine (Alike.modify fun s t hr ↦ h.note _ s t hr).bind fun _ ↦ ?_
  refine (parse_alike h text).bind fun outcome ↦ ?_
  exact (Alike.modify fun s t hr ↦ h.note _ s t hr).last

end Compiler

end GroupSearch
