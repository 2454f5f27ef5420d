import GroupSearch.Proofs.Trace

namespace GroupSearch

/-- A failure of such a kind is due to the operator, whatever its value is. -/
def FailureKind.refusesOperator : FailureKind → Bool
  | unknownOperator | reservedOperator | unsupportedOperator => true
  | malformedValue | grammar | notFound | resolverUnavailable => false

namespace Compiler

variable {σ α β : Type} {c : Compiler σ} {keyword : String} {cause : Cause}

section Refused

variable (c) in
def refusal? (keyword : String) : Option Cause :=
  if keyword = Operator.reserved then some (.reservedOperator keyword)
  else
    match Operator.ofKeyword? keyword with
    | none => some (.unknownOperator keyword)
    | some o => if o.isAvailable c.schema then none else some (.unsupportedOperator keyword)

theorem kind_of_refusal? (h : c.refusal? keyword = some cause) :
    cause.kind.refusesOperator = true := by
  unfold refusal? at h
  split at h
  case isTrue =>
    cases h
    rfl
  split at h
  case h_1 =>
    cases h
    rfl
  split at h
  case isTrue => cases h
  case isFalse =>
    cases h
    rfl

theorem isAvailable_iff : c.isAvailable keyword = true ↔
    ∃ o : Operator, o.keyword = keyword ∧ o.isAvailable c.schema = true := by
  unfold isAvailable
  constructor
  · intro h
    split at h
    case h_1 => cases h
    case h_2 o ho => exact ⟨o, Operator.keyword_of_ofKeyword? ho, h⟩
  · rintro ⟨o, rfl, ho⟩
    rw [Operator.ofKeyword?_keyword]
    exact ho

theorem exists_refusal? (h : c.isAvailable keyword = false) :
    ∃ cause, c.refusal? keyword = some cause := by
  unfold refusal?
  split
  case isTrue => exact ⟨_, rfl⟩
  split
  case h_1 => exact ⟨_, rfl⟩
  case h_2 o ho =>
    rw [isAvailable, ho] at h
    dsimp only at h
    rw [if_neg (ne_true_of_eq_false h)]
    exact ⟨_, rfl⟩

theorem apply_of_not_isAvailable {o : Operator} (h : o.isAvailable c.schema = false)
    (value : String) : c.apply o value = reject (.unsupportedOperator o.keyword) := by
  cases o with
  | uuid | description | inname | name | is | limit => cases h
  | member | subgroup =>
    refine if_neg ?_
    rw [supports]
    exact ne_true_of_eq_false h

/-- A refusal comes before any lookup. -/
theorem operator_of_refusal? (h : c.refusal? keyword = some cause) (value : Option String) (s : σ)
    (trace : List LookupEvent) :
    ∃ t, runFrom (s, trace) (c.tracer.operator keyword value) =
      (.error (.rejected cause), (t, trace)) := by
  unfold refusal? at h
  unfold operator
  by_cases hk : keyword = Operator.reserved
  · rw [if_pos hk] at h ⊢
    cases h
    exact ⟨s, rfl⟩
  · rw [if_neg hk] at h ⊢
    cases ho : Operator.ofKeyword? keyword with
    | none =>
      rw [ho] at h
      cases h
      exact ⟨s, rfl⟩
    | some o =>
      rw [ho] at h
      obtain rfl := Operator.keyword_of_ofKeyword? ho
      dsimp only at h ⊢
      split at h
      case isTrue => cases h
      case isFalse hs =>
        cases h
        rw [apply_of_not_isAvailable (c := c.tracer) (Bool.eq_false_iff.2 hs)]
        exact ⟨_, rfl⟩

end Refused

section Spared

def Spares (x : Build σ α) : Prop :=
  ∀ s t cause, runFrom s x = (.error (.rejected cause), t) → cause.kind.refusesOperator = false

namespace Spares

theorem pure (a : α) : Spares (Pure.pure a : Build σ α) := nofun

theorem reject (h : cause.kind.refusesOperator = false) :
    Spares (Compiler.reject cause : Build σ α) := by
  rintro s t _ ⟨⟩
  exact h

theorem ofExcept {r : Except Cause α}
    (h : ∀ cause, r = .error cause → cause.kind = .malformedValue) :
    Spares (Compiler.ofExcept r : Build σ α) := by
  cases r with
  | ok a => exact pure a
  | error cause =>
    refine reject ?_
    rw [h cause rfl]
    rfl

theorem liftExcept {r : Except Stop α}
    (h : ∀ cause, r = .error (.rejected cause) → cause.kind = .malformedValue) :
    Spares (MonadExcept.ofExcept r : Build σ α) := by
  rcases r with (cause | d) | a
  · exact ofExcept (r := .error cause) (by rintro _ ⟨⟩; exact h cause rfl)
  · exact nofun
  · exact pure a

theorem bind {x : Build σ α} {f : α → Build σ β} (hx : Spares x) (hf : ∀ a, Spares (f a)) :
    Spares (x >>= f) := by
  intro s t cause h
  rcases runFrom_bind_eq_error.1 h with h | ⟨a, u, -, h⟩
  · exact hx s t cause h
  · exact hf a u t cause h

theorem note (level : Log.Level) (message : String) : Spares (c.note level message) := nofun

theorem ask (referent : Referent) (answer : Answer σ α) : Spares (c.ask referent answer) := by
  intro s t cause h
  rw [runFrom_ask] at h
  rcases hr : runFrom s answer with ⟨(reason | d) | a, u⟩ <;> rw [hr] at h <;> cases h
  rfl

end Spares

theorem groupUuid_spares (reference : String) : Spares (c.groupUuid reference) := by
  refine (Spares.ask _ _).bind fun found ↦ ?_
  cases found with
  | some g => exact .pure _
  | none =>
    refine (Spares.ask _ _).bind fun suggestions ↦ ?_
    cases bestSuggestion suggestions reference with
    | none => exact .reject rfl
    | some r => exact (Spares.note _ _).bind fun _ ↦ .pure _

theorem hasSubgroup_spares (h : c.schema.has .subgroup = true) (reference : String) :
    Spares (c.hasSubgroup reference) := by
  rw [hasSubgroup, supports, if_pos h]
  exact (groupUuid_spares reference).bind fun _ ↦ .pure _

theorem hasMember_spares (h : c.schema.has .member = true) (reference : String) :
    Spares (c.hasMember reference) := by
  rw [hasMember, supports, if_pos h]
  refine (Spares.ask _ _).bind fun ids ↦ ?_
  cases idSet ids with
  | nil => exact .reject rfl
  | cons id ids => exact .pure _

theorem apply_spares {o : Operator} (h : o.isAvailable c.schema = true) (value : String) :
    Spares (c.apply o value) := by
  cases o with
  | uuid | inname | name => exact .pure _
  | description => exact .ofExcept fun _ ↦ kind_of_descriptionHas
  | is => exact .ofExcept fun _ ↦ kind_of_propertyIs
  | limit => exact .liftExcept fun _ ↦ kind_of_limitTo
  | member => exact hasMember_spares h value
  | subgroup => exact hasSubgroup_spares h value

theorem operator_spares (h : c.isAvailable keyword = true) (value : Option String) :
    Spares (c.operator keyword value) := by
  obtain ⟨o, rfl, ho⟩ := isAvailable_iff.1 h
  unfold operator
  rw [if_neg o.keyword_ne_reserved, Operator.ofKeyword?_keyword]
  exact (Spares.note _ _).bind fun _ ↦ apply_spares ho _

end Spared

theorem dispatch_alike {τ : Type} {R : σ → τ → Prop} {schema : Schema} {l : Lookups σ}
    {m : Lookups τ} (h : l.Simulates R m) (keyword : String) (value : Option String) :
    Alike R (dispatch ⟨schema, l⟩ keyword value) (dispatch ⟨schema, m⟩ keyword value) :=
  settle_alike h _ (operator_alike h keyword value)

/-- A dispatch, whose lookups are listed without a change to what it comes to, agrees with
availability for every value: an operator that is not available is refused before any lookup, and an
operator that is available is never refused, whatever the lookups answer. -/
theorem dispatch_refuses_unavailable (c : Compiler σ) (keyword : String) (value : Option String)
    (s : σ) :
    let run := runFrom (s, []) (c.tracer.dispatch keyword value)
    (run.1, run.2.1) = runFrom s (c.dispatch keyword value) ∧
      (c.isAvailable keyword = false →
        run.2.2 = [] ∧ ∃ f : Failure, run.1 = .ok (.error f) ∧ f.kind.refusesOperator = true) ∧
      (c.isAvailable keyword = true →
        ∀ f : Failure, run.1 = .ok (.error f) → f.kind.refusesOperator = false) := by
  intro run
  obtain ⟨ho, hs⟩ := dispatch_alike c.lookups.traced_simulates keyword value (s, []) s rfl
  have houtcome : run.1 = settled (runFrom (s, []) (c.tracer.operator keyword value)).1 :=
    c.tracer.settle_eq_settled _ _ (s, [])
  have htrace : run.2.2 = (runFrom (s, []) (c.tracer.operator keyword value)).2.2 :=
    c.trace_settle _ _ s []
  refine ⟨Prod.ext ho hs, fun hn ↦ ?_, fun ha f hf ↦ ?_⟩
  · obtain ⟨cause, hcause⟩ := exists_refusal? hn
    obtain ⟨t, hrun⟩ := operator_of_refusal? hcause value s []
    rw [houtcome, htrace, hrun]
    exact ⟨rfl, cause.failure, rfl, kind_of_refusal? hcause⟩
  · rw [houtcome] at hf
    obtain ⟨cause, hcause, rfl⟩ := settled_eq_failure.1 hf
    have hspares := operator_spares (c := c.tracer) ha value
    exact hspares (s, []) _ cause (Prod.ext hcause rfl)

end Compiler

end GroupSearch
