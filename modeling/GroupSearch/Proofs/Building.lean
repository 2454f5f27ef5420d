import GroupSearch.Compiler
import GroupSearch.Proofs.Decision
import GroupSearch.Proofs.Run

namespace GroupSearch

variable {σ α β : Type}

theorem Limit.ofInt?_eq_some_iff {n : Int} {cap : Limit} : ofInt? n = some cap ↔ n = cap.count := by
  unfold ofInt?
  constructor
  · intro h
    split at h
    case isTrue hn =>
      cases h
      exact (Int.toNat_of_nonneg (by omega)).symm
    case isFalse => cases h
  · rintro rfl
    exact dif_pos (show 0 < (cap.count : Int).toNat from cap.positive)

theorem Limit.ofInt?_eq_none_iff {n : Int} : ofInt? n = none ↔ n ≤ 0 := by
  unfold ofInt?
  split
  case isTrue h => exact ⟨nofun, fun hn ↦ by omega⟩
  case isFalse h => exact ⟨fun _ ↦ by omega, fun _ ↦ rfl⟩

namespace Compiler

/-- The outcome that a compilation leaves: a rejection is an outcome like a predicate, a defect
passes through. -/
def settled : Except Stop Predicate → Except Defect Outcome
  | .ok p => .ok (.ok p)
  | .error (.rejected cause) => .ok (.error cause.failure)
  | .error (.escaped d) => .error d

theorem settled_eq_ok {r : Except Stop Predicate} {p : Predicate} :
    settled r = .ok (.ok p) ↔ r = .ok p := by
  rcases r with (cause | d) | q <;> simp [settled]

theorem settled_eq_failure {r : Except Stop Predicate} {f : Failure} :
    settled r = .ok (.error f) ↔
      ∃ cause : Cause, r = .error (.rejected cause) ∧ cause.failure = f := by
  rcases r with (cause | d) | p <;> simp [settled]

theorem runFrom_ask (c : Compiler σ) (referent : Referent) (answer : Answer σ α) (s : σ) :
    runFrom s (c.ask referent answer) =
      match runFrom s answer with
      | (.ok a, t) => (.ok a, t)
      | (.error (.unavailable reason), t) =>
        (.error (.rejected (.lookupUnavailable referent reason)),
          c.lookups.note ⟨.warning, s!"{referent.title} lookup unavailable: {reason}"⟩ t)
      | (.error (.defect d), t) => (.error (.escaped d), t) := by
  have hl : runFrom s (liftM answer.run : Build σ (Except LookupError α)) =
      (.ok (runFrom s answer).1, (runFrom s answer).2) := rfl
  unfold ask
  rw [runFrom_bind, hl]
  rcases runFrom s answer with ⟨(reason | d) | a, t⟩ <;> rfl

theorem runFrom_ask_eq_ok {c : Compiler σ} {referent : Referent} {answer : Answer σ α} {s t : σ}
    {a : α} :
    runFrom s (c.ask referent answer) = (.ok a, t) ↔ runFrom s answer = (.ok a, t) := by
  rw [runFrom_ask]
  rcases runFrom s answer with ⟨(reason | d) | a, t⟩ <;> simp

theorem ask_map (c : Compiler σ) (referent : Referent) (f : α → β) (x : Answer σ α) :
    c.ask referent (f <$> x) = f <$> c.ask referent x := by
  unfold ask
  rw [ExceptT.run_map, liftM_map, bind_map_left, map_bind]
  congr 1
  funext a
  rcases a with (reason | d) | a <;> rfl

theorem groupUuid_eq (c : Compiler σ) (reference : String) :
    c.groupUuid reference = do
      match ← c.ask .group (Option.map Group.uuid <$> c.lookups.group reference) with
      | some uuid => return uuid
      | none =>
        match bestSuggestion (← c.ask .group (c.lookups.suggestions reference)) reference with
        | none => reject (.groupNotFound reference)
        | some r =>
          c.note .debug s!"Group {Text.quoted reference} resolved by suggestion to {r.uuid}"
          return r.uuid := by
  unfold groupUuid
  rw [ask_map, bind_map_left]
  congr 1
  funext found
  cases found <;> rfl

theorem runFrom_operator (c : Compiler σ) (o : Operator) (value : String) (s : σ) :
    ∃ t, runFrom s (c.operator o.keyword (some value)) = runFrom t (c.apply o value) := by
  refine ⟨c.lookups.note ⟨.debug,
    s!"Dispatching operator {o.keyword}:{Text.quotedOption value}"⟩ s, ?_⟩
  unfold operator
  rw [if_neg o.keyword_ne_reserved, Operator.ofKeyword?_keyword, runFrom_bind]
  rfl

theorem apply_of_operator {c : Compiler σ} {keyword : String} {value : Option String} {s t : σ}
    {p : Predicate} (h : runFrom s (c.operator keyword value) = (.ok p, t)) :
    ∃ (o : Operator) (u : σ), o.keyword = keyword ∧
      runFrom u (c.apply o (value.getD "")) = (.ok p, t) := by
  unfold operator at h
  split at h
  case isTrue => cases h
  split at h
  case h_1 => cases h
  case h_2 o ho =>
    obtain ⟨_, u, -, h⟩ := runFrom_bind_eq_ok.1 h
    exact ⟨o, u, Operator.keyword_of_ofKeyword? ho, h⟩

theorem limitNumeral?_eq_some_iff {value : String} {n : Int} :
    limitNumeral? value = .ok (some n) ↔
      Text.readInteger value.toList = .ok (some n) ∧ -2147483648 ≤ n ∧ n ≤ 2147483647 := by
  unfold limitNumeral?
  rcases Text.readInteger value.toList with o | _ | m
  · exact ⟨nofun, nofun⟩
  · exact ⟨nofun, nofun⟩
  · simp only [Except.map, Except.ok.injEq, Option.filter_eq_some_iff, Option.some.injEq,
      decide_eq_true_eq]

theorem limitNumeral?_eq_error_iff {value : String} {o : Text.Overlong} :
    limitNumeral? value = .error o ↔ Text.readInteger value.toList = .error o := by
  unfold limitNumeral?
  cases Text.readInteger value.toList <;> simp [Except.map]

/-- The limit that is set is the number that the value stands for. -/
theorem limitTo_eq_ok_iff {value : String} {p : Predicate} : limitTo (some value) = .ok p ↔
    ∃ cap : Limit, p = .leaf (.limit cap) ∧
      Text.readInteger value.toList = .ok (some (cap.count : Int)) ∧ cap.count ≤ 2147483647 := by
  unfold limitTo
  constructor
  · intro h
    dsimp only at h
    split at h
    case h_1 => cases h
    case h_2 => cases h
    case h_3 n hn =>
      obtain ⟨hvalue, -, hle⟩ := limitNumeral?_eq_some_iff.1 hn
      split at h
      case h_1 => cases h
      case h_2 cap hcap =>
        cases h
        obtain rfl := Limit.ofInt?_eq_some_iff.1 hcap
        exact ⟨cap, rfl, hvalue, by omega⟩
  · rintro ⟨cap, rfl, hvalue, hle⟩
    have hn : limitNumeral? value = .ok (some (cap.count : Int)) :=
      limitNumeral?_eq_some_iff.2 ⟨hvalue, by omega, by omega⟩
    have hcap : Limit.ofInt? cap.count = some cap := Limit.ofInt?_eq_some_iff.2 rfl
    simp only [hn, hcap]

theorem runFrom_liftExcept (s : σ) (r : Except Stop α) :
    runFrom s (MonadExcept.ofExcept r : Build σ α) = (r, s) := by
  cases r <;> rfl

theorem runFrom_liftExcept_eq_ok {s t : σ} {r : Except Stop α} {a : α} :
    runFrom s (MonadExcept.ofExcept r : Build σ α) = (.ok a, t) ↔ r = .ok a ∧ s = t := by
  rw [runFrom_liftExcept, Prod.mk.injEq]

/-- An operator for a limit comes to what its value alone decides. -/
theorem runFrom_operator_limit (c : Compiler σ) (s : σ) (value : String) :
    (runFrom s (c.operator "limit" (some value))).1 = limitTo (some value) := by
  obtain ⟨t, ht⟩ := c.runFrom_operator .limit value s
  have hrun : runFrom s (c.operator "limit" (some value)) = (limitTo (some value), t) :=
    ht.trans (runFrom_liftExcept t _)
  rw [hrun]

theorem runFrom_ofExcept (s : σ) (r : Except Cause α) :
    runFrom s (ofExcept r : Build σ α) = (r.mapError .rejected, s) := by
  cases r <;> rfl

theorem runFrom_ofExcept_eq_ok {s t : σ} {r : Except Cause α} {a : α} :
    runFrom s (ofExcept r : Build σ α) = (.ok a, t) ↔ r = .ok a ∧ s = t := by
  rw [runFrom_ofExcept, Prod.mk.injEq, mapError_eq_ok]

theorem tokens_of_query {c : Compiler σ} {text : Option String} {s t : σ} {p : Predicate}
    (h : runFrom s (c.query text) = (.ok p, t)) :
    ∃ ts, Token.read (text.getD "") = .ok ts ∧ runFrom s (c.tokens ts) = (.ok p, t) := by
  unfold query at h
  split at h
  case h_1 => cases h
  case h_2 => cases h
  case h_3 u us hr => exact ⟨u :: us, hr, h⟩

theorem runFrom_settle (c : Compiler σ) (notice : Cause → Option Log.Record)
    (build : Build σ Predicate) (s : σ) :
    runFrom s (c.settle notice build) =
      match runFrom s build with
      | (.ok p, t) => (.ok (.ok p), t)
      | (.error (.rejected cause), t) =>
        (.ok (.error cause.failure), match notice cause with
          | none => t
          | some r => c.lookups.note r t)
      | (.error (.escaped d), t) => (.error d, t) := rfl

theorem settle_eq_settled (c : Compiler σ) (notice : Cause → Option Log.Record)
    (build : Build σ Predicate) (s : σ) :
    (runFrom s (c.settle notice build)).1 = settled (runFrom s build).1 := by
  rw [runFrom_settle]
  rcases runFrom s build with ⟨(cause | d) | p, t⟩ <;> rfl

theorem parse_eq_settled (c : Compiler σ) (s : σ) (text : Option String) :
    (runFrom s (c.parse text)).1 = settled (runFrom s (c.query text)).1 :=
  c.settle_eq_settled _ _ s

theorem compile_eq_settled (c : Compiler σ) (s : σ) (text : Option String) :
    (runFrom s (c.compile text)).1 =
      settled (runFrom (c.lookups.note ⟨.debug, s!"Compiling query: {Text.quotedOption text}"⟩ s)
        (c.query text)).1 := by
  rw [← parse_eq_settled]
  unfold compile
  rw [runFrom_bind]
  change (runFrom (c.lookups.note _ s) (c.parse text >>= _)).1 = _
  rw [runFrom_bind]
  rcases runFrom (c.lookups.note _ s) (c.parse text) with ⟨d | outcome, t⟩ <;> rfl

/-- Parsing and compilation come to a predicate only where the query itself does. -/
theorem query_of_compiles {c : Compiler σ} {text : Option String} {s : σ} {p : Predicate}
    (h : (runFrom s (c.parse text)).1 = .ok (.ok p) ∨
      (runFrom s (c.compile text)).1 = .ok (.ok p)) :
    ∃ s' t, runFrom s' (c.query text) = (.ok p, t) := by
  rw [parse_eq_settled, compile_eq_settled, settled_eq_ok, settled_eq_ok] at h
  rcases h with h | h <;> exact ⟨_, _, Prod.ext h rfl⟩

end Compiler

end GroupSearch
