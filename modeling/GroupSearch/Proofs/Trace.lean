import GroupSearch.Proofs.FirstFault
import GroupSearch.Proofs.Numerals
import GroupSearch.Proofs.View

namespace GroupSearch

namespace LookupEvent

def failure? : LookupEvent → Option LookupError
  | accounts _ (.error e) | group _ (.error e) | suggestions _ (.error e) => some e
  | accounts _ (.ok _) | group _ (.ok _) | suggestions _ (.ok _) => none

def referent : LookupEvent → Referent
  | accounts .. => .account
  | group .. | suggestions .. => .group

end LookupEvent

def LookupError.stop (referent : Referent) : LookupError → Stop
  | unavailable reason => .rejected (.lookupUnavailable referent reason)
  | defect d => .escaped d

/-- The reference in a clause, as far as the index has the field that it is for. -/
def Clause.reference? (schema : Schema) : Clause → Option (Referent × String)
  | operator "member" value => if schema.has .member then some (.account, value) else none
  | operator "subgroup" value => if schema.has .subgroup then some (.group, value) else none
  | _ => none

/-- The lookups of one clause. Suggestions are asked for when there is no group under the
reference. -/
inductive Asks (schema : Schema) (cl : Clause) : List LookupEvent → Prop
  | nothing : cl.reference? schema = none → Asks schema cl []
  | accounts {r : String} {answer : Except LookupError (List Int)} :
      cl.reference? schema = some (.account, r) → Asks schema cl [.accounts r answer]
  | group {r : String} {answer : Except LookupError (Option Group)} :
      cl.reference? schema = some (.group, r) → answer ≠ .ok none →
      Asks schema cl [.group r answer]
  | suggestions {r : String} {answer : Except LookupError (List Reference)} :
      cl.reference? schema = some (.group, r) →
      Asks schema cl [.group r (.ok none), .suggestions r answer]

/-- The lookups of clauses, one clause after the other. -/
inductive AsksInTurn (schema : Schema) : List Clause → List LookupEvent → Prop
  | nil : AsksInTurn schema [] []
  | cons {cl : Clause} {cls : List Clause} {es es' : List LookupEvent} :
      Asks schema cl es → AsksInTurn schema cls es' → AsksInTurn schema (cl :: cls) (es ++ es')

theorem AsksInTurn.append {schema : Schema} {cls cls' : List Clause} {es es' : List LookupEvent}
    (h : AsksInTurn schema cls es) (h' : AsksInTurn schema cls' es') :
    AsksInTurn schema (cls ++ cls') (es ++ es') := by
  induction h with
  | nil => exact h'
  | cons ha _ ih =>
    rw [List.append_assoc]
    exact .cons ha ih

theorem AsksInTurn.singleton {schema : Schema} {cl : Clause} {es : List LookupEvent}
    (h : Asks schema cl es) : AsksInTurn schema [cl] es := by
  have hs := AsksInTurn.cons h .nil
  rwa [List.append_nil] at hs

theorem AsksInTurn.eq_nil {schema : Schema} {cls : List Clause} {es : List LookupEvent}
    (h : AsksInTurn schema cls es) (hn : ∀ cl ∈ cls, cl.reference? schema = none) : es = [] := by
  induction h with
  | nil => rfl
  | @cons cl cls es es' ha _ ih =>
    rw [List.forall_mem_cons] at hn
    rw [ih hn.2, List.append_nil]
    cases ha with
    | nothing => rfl
    | accounts hr | group hr | suggestions hr => cases hn.1.symm.trans hr

/-- Every reference has been found. -/
inductive Resolved : List LookupEvent → Prop
  | nil : Resolved []
  | accounts {es : List LookupEvent} {r : String} {ids : List Int} :
      Resolved es → ids ≠ [] → Resolved (es ++ [.accounts r (.ok ids)])
  | group {es : List LookupEvent} {r : String} {g : Group} :
      Resolved es → Resolved (es ++ [.group r (.ok (some g))])
  | suggestion {es : List LookupEvent} {r : String} {suggestions : List Reference}
      {best : Reference} : Resolved es → bestSuggestion suggestions r = some best →
      Resolved (es ++ [.group r (.ok none), .suggestions r (.ok suggestions)])

namespace Resolved

variable {es es' : List LookupEvent}

theorem append (h : Resolved es) (h' : Resolved es') : Resolved (es ++ es') := by
  induction h' with
  | nil => rwa [List.append_nil]
  | accounts _ hids ih =>
    rw [← List.append_assoc]
    exact .accounts ih hids
  | group _ ih =>
    rw [← List.append_assoc]
    exact .group ih
  | suggestion _ hb ih =>
    rw [← List.append_assoc]
    exact .suggestion ih hb

theorem failure?_eq_none (h : Resolved es) : ∀ e ∈ es, e.failure? = none := by
  induction h with
  | nil => exact nofun
  | accounts _ _ ih | group _ ih =>
    exact List.forall_mem_append.2 ⟨ih, List.forall_mem_singleton.2 rfl⟩
  | suggestion _ _ ih =>
    refine List.forall_mem_append.2 ⟨ih, ?_⟩
    exact List.forall_mem_cons.2 ⟨rfl, List.forall_mem_singleton.2 rfl⟩

end Resolved

/-- A clause that cannot be built for a reason of its own: a limit with a numeral that is too long
to be read. -/
def Clause.HasDefect (cl : Clause) (d : Defect) : Prop :=
  ∃ value k n, cl = .operator "limit" value ∧ Text.Decimal value.toList k n ∧
    Text.mostDigits < k ∧ d = .overlong ⟨k⟩

/-- What lookups lead to: without a failure among them, and with every reference found, anything
but a failure that blames a lookup. Besides those of lookups there are defects `own`, of clauses. -/
inductive Leads {α : Type} (own : Defect → Prop) : List LookupEvent → Except Stop α → Prop
  | built {es : List LookupEvent} {a : α} : Resolved es → Leads own es (.ok a)
  | refused {es : List LookupEvent} {cause : Cause} : Resolved es →
      cause.kind ≠ .notFound → cause.kind ≠ .resolverUnavailable →
      Leads own es (.error (.rejected cause))
  | defective {es : List LookupEvent} {d : Defect} : Resolved es → own d →
      Leads own es (.error (.escaped d))
  | unknownAccount {es : List LookupEvent} {r : String} : Resolved es →
      Leads own (es ++ [.accounts r (.ok [])]) (.error (.rejected (.accountNotFound r)))
  | unknownGroup {es : List LookupEvent} {r : String} {suggestions : List Reference} :
      Resolved es → bestSuggestion suggestions r = none →
      Leads own (es ++ [.group r (.ok none), .suggestions r (.ok suggestions)])
        (.error (.rejected (.groupNotFound r)))
  | failed {es : List LookupEvent} {e : LookupEvent} {error : LookupError} :
      (∀ e' ∈ es, e'.failure? = none) → e.failure? = some error →
      Leads own (es ++ [e]) (.error (error.stop e.referent))

namespace Leads

variable {α β : Type} {own own' : Defect → Prop} {es es' : List LookupEvent}

theorem resolved {a : α} (h : Leads own es (.ok a)) : Resolved es := by
  cases h with
  | built h => exact h

theorem mono {r : Except Stop α} (h : Leads own es r) (ho : ∀ d, own d → own' d) :
    Leads own' es r := by
  cases h with
  | built h => exact .built h
  | refused h hn hu => exact .refused h hn hu
  | defective h hd => exact .defective h (ho _ hd)
  | unknownAccount h => exact .unknownAccount h
  | unknownGroup h hb => exact .unknownGroup h hb
  | failed h he => exact .failed h he

/-- Lookups that have found their references make no difference. -/
theorem behind {r : Except Stop α} (h : Leads own es' r) (hes : Resolved es) :
    Leads own (es ++ es') r := by
  cases h with
  | built h => exact .built (hes.append h)
  | refused h hn hu => exact .refused (hes.append h) hn hu
  | defective h hd => exact .defective (hes.append h) hd
  | unknownAccount h =>
    rw [← List.append_assoc]
    exact .unknownAccount (hes.append h)
  | unknownGroup h hb =>
    rw [← List.append_assoc]
    exact .unknownGroup (hes.append h) hb
  | failed h he =>
    rw [← List.append_assoc]
    exact .failed (List.forall_mem_append.2 ⟨hes.failure?_eq_none, h⟩) he

/-- What stops a part of a compilation stops the whole. -/
theorem error {stop : Stop} (h : Leads own es (.error stop : Except Stop α)) :
    Leads own es (.error stop : Except Stop β) := by
  cases h with
  | refused h hn hu => exact .refused h hn hu
  | defective h hd => exact .defective h hd
  | unknownAccount h => exact .unknownAccount h
  | unknownGroup h hb => exact .unknownGroup h hb
  | failed h he => exact .failed h he

end Leads

namespace Compiler

variable {σ α β : Type} (c : Compiler σ)

def tracer : Compiler (σ × List LookupEvent) := ⟨c.schema, c.lookups.traced⟩

/-- Behind the lookups `front` of a clause, the computation makes further ones such that all of them
together are as wanted, and comes to what they lead to, or to a defect `own`. -/
def Logs (own : Defect → Prop) (front : List LookupEvent) (asked : List LookupEvent → Prop)
    (x : Build (σ × List LookupEvent) α) : Prop :=
  ∀ s trace, ∃ es, (runFrom (s, trace ++ front) x).2.2 = trace ++ es ∧ asked es ∧
    Leads own es (runFrom (s, trace ++ front) x).1

theorem tracer_clause_alike (cl : Clause) :
    Alike (fun t s ↦ t.1 = s) (c.tracer.clause cl) (c.clause cl) :=
  clause_alike c.lookups.traced_simulates cl

theorem tracer_query_alike (text : Option String) :
    Alike (fun t s ↦ t.1 = s) (c.tracer.query text) (c.query text) :=
  query_alike c.lookups.traced_simulates text

theorem tracer_parse_alike (text : Option String) :
    Alike (fun t s ↦ t.1 = s) (c.tracer.parse text) (c.parse text) :=
  parse_alike c.lookups.traced_simulates text

variable {c} {own : Defect → Prop} {front : List LookupEvent} {asked : List LookupEvent → Prop}
  {x : Build (σ × List LookupEvent) α}

namespace Logs

theorem pure (h : asked front) (hf : Resolved front) (a : α) :
    Logs own front asked (Pure.pure a : Build (σ × List LookupEvent) α) :=
  fun _ _ ↦ ⟨front, rfl, h, .built hf⟩

theorem reject (h : asked front) {cause : Cause}
    (hl : Leads own front (.error (.rejected cause) : Except Stop α)) :
    Logs own front asked (Compiler.reject cause : Build (σ × List LookupEvent) α) :=
  fun _ _ ↦ ⟨front, rfl, h, hl⟩

theorem ofExcept (h : asked []) {r : Except Cause α}
    (hk : ∀ cause, r = .error cause → cause.kind = .malformedValue) :
    Logs own [] asked (Compiler.ofExcept r : Build (σ × List LookupEvent) α) := by
  cases r with
  | ok a => exact pure h .nil a
  | error cause =>
    have hc := hk cause rfl
    exact reject h (.refused .nil (by rw [hc]; decide) (by rw [hc]; decide))

theorem liftExcept (h : asked []) {r : Except Stop α}
    (hk : ∀ cause, r = .error (.rejected cause) → cause.kind = .malformedValue)
    (hd : ∀ d, r = .error (.escaped d) → own d) :
    Logs own [] asked (MonadExcept.ofExcept r : Build (σ × List LookupEvent) α) := by
  rcases r with (cause | d) | a
  · exact ofExcept h (r := .error cause) (by rintro _ ⟨⟩; exact hk cause rfl)
  · exact fun _ _ ↦ ⟨[], rfl, h, .defective .nil (hd d rfl)⟩
  · exact pure h .nil a

theorem note (h : Logs own front asked x) (level : Log.Level) (message : String) :
    Logs own front asked (do c.tracer.note level message; x) :=
  fun s trace ↦ h (c.lookups.note ⟨level, message⟩ s) trace

theorem map (h : Logs own front asked x) (f : α → β) :
    Logs own front asked (do return f (← x)) := by
  intro s trace
  obtain ⟨es, ht, ha, hl⟩ := h s trace
  rw [runFrom_bind]
  rcases hx : runFrom (s, trace ++ front) x with ⟨stop | a, t⟩
  · rw [hx] at ht hl
    exact ⟨es, ht, ha, hl.error⟩
  · rw [hx] at ht hl
    exact ⟨es, ht, ha, .built hl.resolved⟩

theorem ask {event : Except LookupError α → LookupEvent} {referent : Referent}
    {answer : Answer σ α} {k : α → Build (σ × List LookupEvent) β}
    (hfront : ∀ e ∈ front, e.failure? = none)
    (hevent : ∀ error, (event (.error error)).failure? = some error ∧
      (event (.error error)).referent = referent)
    (hfail : ∀ error, asked (front ++ [event (.error error)]))
    (hok : ∀ a, Logs own (front ++ [event (.ok a)]) asked (k a)) :
    Logs own front asked (c.tracer.ask referent (Lookups.record event answer) >>= k) := by
  intro s trace
  have hr : runFrom (s, trace ++ front) (Lookups.record event answer) = ((runFrom s answer).1,
      ((runFrom s answer).2, trace ++ front ++ [event (runFrom s answer).1])) := rfl
  rw [runFrom_bind, runFrom_ask, hr]
  have hleads (error : LookupError) : Leads own (front ++ [event (.error error)])
      (.error (error.stop referent) : Except Stop β) := by
    rw [← (hevent error).2]
    exact .failed hfront (hevent error).1
  rcases runFrom s answer with ⟨(reason | d) | a, t⟩
  · exact ⟨_, List.append_assoc .., hfail _, hleads (.unavailable reason)⟩
  · exact ⟨_, List.append_assoc .., hfail _, hleads (.defect d)⟩
  · rw [List.append_assoc]
    exact hok a t trace

end Logs

section Clauses

variable {cl : Clause} {reference : String}

theorem hasMember_logs
    (hcl : cl.reference? c.schema =
      if c.schema.has .member then some (.account, reference) else none) :
    Logs own [] (Asks c.schema cl) (c.tracer.hasMember reference) := by
  unfold hasMember
  change Logs _ _ _ (if c.schema.has .member then _ else _)
  split
  case isFalse hs =>
    rw [if_neg hs] at hcl
    exact .reject (.nothing hcl) (.refused .nil nofun nofun)
  case isTrue hs =>
    rw [if_pos hs] at hcl
    refine .ask nofun (fun _ ↦ ⟨rfl, rfl⟩) (fun _ ↦ .accounts hcl) fun ids ↦ ?_
    cases hids : idSet ids with
    | nil =>
      obtain rfl := idSet_eq_nil.1 hids
      exact .reject (.accounts hcl) (.unknownAccount .nil)
    | cons id ids' =>
      have hne : ids ≠ [] := fun he ↦ by cases (idSet_eq_nil.2 he).symm.trans hids
      exact .pure (.accounts hcl) (.accounts .nil hne) _

theorem groupUuid_logs (hcl : cl.reference? c.schema = some (.group, reference)) :
    Logs own [] (Asks c.schema cl) (c.tracer.groupUuid reference) := by
  unfold groupUuid
  refine .ask nofun (fun _ ↦ ⟨rfl, rfl⟩) (fun _ ↦ .group hcl nofun) fun found ↦ ?_
  cases found with
  | some g => exact .pure (.group hcl nofun) (.group .nil) _
  | none =>
    refine .ask (List.forall_mem_singleton.2 rfl) (fun _ ↦ ⟨rfl, rfl⟩)
      (fun _ ↦ .suggestions hcl) fun suggestions ↦ ?_
    cases hb : bestSuggestion suggestions reference with
    | none => exact .reject (.suggestions hcl) (.unknownGroup .nil hb)
    | some r => exact .note (.pure (.suggestions hcl) (.suggestion .nil hb) _) _ _

theorem hasSubgroup_logs
    (hcl : cl.reference? c.schema =
      if c.schema.has .subgroup then some (.group, reference) else none) :
    Logs own [] (Asks c.schema cl) (c.tracer.hasSubgroup reference) := by
  unfold hasSubgroup
  change Logs _ _ _ (if c.schema.has .subgroup then _ else _)
  split
  case isFalse hs =>
    rw [if_neg hs] at hcl
    exact .reject (.nothing hcl) (.refused .nil nofun nofun)
  case isTrue hs =>
    rw [if_pos hs] at hcl
    exact (groupUuid_logs hcl).map _

theorem kind_of_descriptionHas {value : Option String} {cause : Cause}
    (h : descriptionHas value = .error cause) : cause.kind = .malformedValue := by
  unfold descriptionHas at h
  split at h
  case h_1 =>
    cases h
    rfl
  split at h
  case isTrue =>
    cases h
    rfl
  case isFalse => cases h

theorem kind_of_propertyIs {value : String} {cause : Cause} (h : propertyIs value = .error cause) :
    cause.kind = .malformedValue := by
  unfold propertyIs at h
  split at h
  case isTrue => cases h
  case isFalse =>
    cases h
    rfl

theorem kind_of_limitTo {value : Option String} {cause : Cause}
    (h : limitTo value = .error (.rejected cause)) : cause.kind = .malformedValue := by
  unfold limitTo at h
  split at h
  case h_1 =>
    cases h
    rfl
  split at h
  case h_1 => cases h
  case h_2 =>
    cases h
    rfl
  split at h
  case h_1 =>
    cases h
    rfl
  case h_2 => cases h

/-- What a limit lets through is the fault of a numeral that is too long. -/
theorem limitTo_eq_escaped_iff {value : String} {d : Defect} :
    limitTo (some value) = .error (.escaped d) ↔
      ∃ k n, Text.Decimal value.toList k n ∧ Text.mostDigits < k ∧ d = .overlong ⟨k⟩ := by
  constructor
  · intro h
    unfold limitTo at h
    dsimp only at h
    split at h
    case h_1 o ho =>
      cases h
      obtain ⟨hlt, n, hn⟩ :=
        Text.readInteger_eq_error_iff_decimal.1 (limitNumeral?_eq_error_iff.1 ho)
      exact ⟨_, n, hn, hlt, rfl⟩
    case h_2 => cases h
    split at h <;> cases h
  · rintro ⟨k, n, hn, hlt, rfl⟩
    have ho : limitNumeral? value = .error ⟨k⟩ := limitNumeral?_eq_error_iff.2
      (Text.readInteger_eq_error_iff_decimal.2 ⟨hlt, n, hn⟩)
    simp only [limitTo, ho]

theorem apply_logs (o : Operator) (value : String) :
    Logs (Clause.HasDefect (.operator o.keyword value)) []
      (Asks c.schema (.operator o.keyword value)) (c.tracer.apply o value) := by
  cases o with
  | uuid | inname | name => exact .pure (.nothing rfl) .nil _
  | description => exact .ofExcept (.nothing rfl) fun _ ↦ kind_of_descriptionHas
  | is => exact .ofExcept (.nothing rfl) fun _ ↦ kind_of_propertyIs
  | limit =>
    refine .liftExcept (.nothing rfl) (fun _ ↦ kind_of_limitTo) fun d hd ↦ ?_
    obtain ⟨k, n, hn, hlt, rfl⟩ := limitTo_eq_escaped_iff.1 hd
    exact ⟨value, k, n, rfl, hn, hlt, rfl⟩
  | member => exact hasMember_logs rfl
  | subgroup => exact hasSubgroup_logs rfl

theorem clause_logs (cl : Clause) :
    Logs cl.HasDefect [] (Asks c.schema cl) (c.tracer.clause cl) := by
  cases cl with
  | term value => exact .pure (.nothing rfl) .nil _
  | operator keyword value =>
    change Logs _ [] _ (c.tracer.operator keyword (some value))
    unfold operator
    split
    case isTrue hk =>
      subst hk
      exact .reject (.nothing rfl) (.refused .nil nofun nofun)
    split
    case h_1 hk =>
      refine .reject (.nothing ?_) (.refused .nil nofun nofun)
      unfold Clause.reference?
      split
      case h_1 he =>
        cases he
        cases hk
      case h_2 he =>
        cases he
        cases hk
      case h_3 => rfl
    case h_2 o hk =>
      obtain rfl := Operator.keyword_of_ofKeyword? hk
      exact .note (apply_logs o value) _ _

end Clauses

open Query

variable {s : σ} {trace : List LookupEvent} {ts : List Token} {k : Nat}

theorem asksInTurn_of_mapM {cls : List Clause} {vs : List Predicate} {t : σ × List LookupEvent}
    (h : runFrom (s, trace) (cls.mapM c.tracer.clause) = (.ok vs, t)) :
    ∃ es, t.2 = trace ++ es ∧ AsksInTurn c.schema cls es ∧ Resolved es := by
  induction cls generalizing s trace vs with
  | nil =>
    obtain ⟨rfl, rfl⟩ := runFrom_mapM_nil_eq_ok.1 h
    exact ⟨[], (List.append_nil trace).symm, .nil, .nil⟩
  | cons cl cls ih =>
    obtain ⟨p, ps, ⟨s', trace'⟩, -, hp, hps⟩ := runFrom_mapM_cons_eq_ok.1 h
    obtain ⟨es, ht, ha, hl⟩ := clause_logs (c := c) cl s trace
    rw [List.append_nil, hp] at ht hl
    obtain ⟨es', ht', ha', hl'⟩ := ih hps
    refine ⟨es ++ es', ?_, .cons ha ha', hl.resolved.append hl'⟩
    rw [ht', ← List.append_assoc]
    exact congrArg (· ++ es') ht

theorem clauses_append_of_ne {u : Token} (hu : ∀ cl, u.lexeme ≠ .clause cl) (ts : List Token) :
    clauses (ts ++ [u]) = clauses ts := by
  obtain ⟨l, i⟩ := u
  rw [clauses_append]
  cases l with
  | clause cl => exact (hu cl rfl).elim
  | openParen | closeParen | and | or | not => exact List.append_nil _

/-- The lookups that a compiler makes for a token list: those for the clauses up to the first fault,
if there is one. -/
structure Covers (c : Compiler σ) (s : σ) (ts : List Token) (es : List LookupEvent) : Prop where
  fault {k : Nat} : c.FirstFault s ts k → AsksInTurn c.schema (clauses (ts.take (k + 1))) es
  faultless : (∀ k, ¬ c.Faulty s ts k) → AsksInTurn c.schema (clauses ts) es

theorem Covers.of_firstFault {es : List LookupEvent} (hk : c.FirstFault s ts k)
    (h : AsksInTurn c.schema (clauses (ts.take (k + 1))) es) : c.Covers s ts es where
  fault hk' := hk.unique hk' ▸ h
  faultless hn := (hn k hk.1).elim

theorem Covers.of_faultless {es : List LookupEvent} (hn : ∀ k, ¬ c.Faulty s ts k)
    (h : AsksInTurn c.schema (clauses ts) es) : c.Covers s ts es where
  fault hk := (hn _ hk.1).elim
  faultless _ := h

def FirstDefect (c : Compiler σ) (s : σ) (ts : List Token) (d : Defect) : Prop :=
  ∃ k i cl, c.FirstFault s ts k ∧ ts[k]? = some ⟨.clause cl, i⟩ ∧ cl.HasDefect d

theorem tokens_logs (c : Compiler σ) (s : σ) (trace : List LookupEvent) (ts : List Token) :
    ∃ es, (runFrom (s, trace) (c.tracer.tokens ts)).2.2 = trace ++ es ∧
      Leads (c.tracer.FirstDefect (s, trace) ts) es (runFrom (s, trace) (c.tracer.tokens ts)).1 ∧
      c.tracer.Covers (s, trace) ts es := by
  rcases ho : runFrom (s, trace) (c.tracer.tokens ts) with ⟨stop | p, t⟩
  -- The clauses in front of the place where the readers stop are built, and have asked in turn.
  · obtain ⟨before, after, r, vs, ⟨s', trace'⟩, rfl, hr, hb, hh⟩ := stops_of_ofTokens ho
    obtain ⟨es, ht, ha, hres⟩ := asksInTurn_of_mapM hb
    dsimp only at ht
    subst ht
    have hv : Viable before := viable_iff_run.2 ⟨r, hr⟩
    have htake (u : Token) (after : List Token) :
        (before ++ u :: after).take (before.length + 1) = before ++ [u] := by
      rw [List.take_length_add_append]
      rfl
    cases hh with
    | @stuck u after hu =>
      have hk : c.tracer.FirstFault (s, trace) (before ++ u :: after) before.length :=
        firstFault_of_stuck hr hu hb
      have hcl : ∀ cl, u.lexeme ≠ .clause cl := by
        intro cl he
        have hmem := Reading.stops_at hu
        rw [he] at hmem
        simp at hmem
      refine ⟨es, rfl, .refused hres nofun nofun, .of_firstFault hk ?_⟩
      rwa [htake, clauses_append_of_ne hcl]
    | @clause cl i after _ _ he =>
      have hf : c.tracer.FailsAt (s, trace) (before ++ ⟨.clause cl, i⟩ :: after) before.length
          stop := failsAt_of_built hb (by rw [he])
      obtain ⟨es', ht, ha', hl⟩ := clause_logs (c := c) cl s' (trace ++ es)
      rw [List.append_nil, he] at ht hl
      have hk := firstFault_of_failsAt hv hb hf
      have hd (d : Defect) (hd : cl.HasDefect d) :
          c.tracer.FirstDefect (s, trace) (before ++ ⟨.clause cl, i⟩ :: after) d :=
        ⟨before.length, i, cl, hk, by simp, hd⟩
      refine ⟨es ++ es', ?_, (hl.error.mono hd).behind hres, .of_firstFault hk ?_⟩
      · rw [← List.append_assoc]
        exact ht
      · rw [htake, clauses_append]
        exact ha.append (.singleton ha')
    | wanting =>
      rw [List.append_nil]
      exact ⟨es, rfl, .refused hres nofun nofun, .of_faultless (faultless_of_built hv hb) ha⟩
    | unclosed =>
      rw [List.append_nil]
      exact ⟨es, rfl, .refused hres nofun nofun, .of_faultless (faultless_of_built hv hb) ha⟩
  · obtain ⟨vs, hb, -⟩ := derivation_of_ofTokens ho
    obtain ⟨es, ht, ha, hres⟩ := asksInTurn_of_mapM hb
    have hn : ∀ k, ¬ c.tracer.Faulty (s, trace) ts k := (sentence_of_ok ho).2
    exact ⟨es, ht, .built hres, .of_faultless hn ha⟩

section Alike

variable {τ : Type} {c' : Compiler τ} {R : σ → τ → Prop} {t : τ}
  (h : ∀ cl, Alike R (c.clause cl) (c'.clause cl)) (hst : R s t)

include h hst

theorem FailsAt.of_alike {stop : Stop} (hf : c.FailsAt s ts k stop) : c'.FailsAt t ts k stop := by
  obtain ⟨cl, i, vs, u, hk, hvs, he⟩ := hf
  obtain ⟨hv, hu⟩ := Alike.mapM h (clauses (ts.take k)) s t hst
  rw [hvs] at hv hu
  obtain ⟨hcl, -⟩ := h cl u _ hu
  exact ⟨cl, i, vs, _, hk, Prod.ext hv.symm rfl, hcl.symm.trans he⟩

theorem faulty_congr : c.Faulty s ts k ↔ c'.Faulty t ts k := by
  refine or_congr_right (exists_congr fun stop ↦ ⟨.of_alike h hst, ?_⟩)
  exact .of_alike (fun cl ↦ (h cl).flip) hst

theorem firstFault_congr : c.FirstFault s ts k ↔ c'.FirstFault t ts k :=
  and_congr (faulty_congr h hst)
    (forall_congr' fun _ ↦ imp_congr_right fun _ ↦ not_congr (faulty_congr h hst))

theorem Covers.of_alike {es : List LookupEvent} (hs : c.schema = c'.schema)
    (hc : c.Covers s ts es) : c'.Covers t ts es where
  fault hk := hs ▸ hc.fault ((firstFault_congr h hst).2 hk)
  faultless hn := hs ▸ hc.faultless fun k hk ↦ hn k ((faulty_congr h hst).1 hk)

end Alike

/-- A text of which the tokens have a clause with a defect of its own for their first fault. -/
def OwnDefect (c : Compiler σ) (s : σ) (text : Option String) (d : Defect) : Prop :=
  ∃ ts, Token.read (text.getD "") = .ok ts ∧ c.FirstDefect s ts d

theorem query_logs (c : Compiler σ) (s : σ) (trace : List LookupEvent) (text : Option String) :
    ∃ es, (runFrom (s, trace) (c.tracer.query text)).2.2 = trace ++ es ∧
      Leads (c.OwnDefect s text) es (runFrom (s, trace) (c.tracer.query text)).1 ∧
      (∀ cause, Token.read (text.getD "") = .error cause → es = []) ∧
      ∀ ts, Token.read (text.getD "") = .ok ts → c.Covers s ts es := by
  unfold query
  cases hr : Token.read (text.getD "") with
  | error cause =>
    have hk : cause.kind = .grammar := Token.kind_of_readFrom hr
    have hl : Leads (c.OwnDefect s text) [] (.error (.rejected cause) : Except Stop Predicate) :=
      .refused .nil (by rw [hk]; decide) (by rw [hk]; decide)
    exact ⟨[], (List.append_nil trace).symm, hl, fun _ _ ↦ rfl, nofun⟩
  | ok ts =>
    cases ts with
    | nil =>
      refine ⟨[], (List.append_nil trace).symm, .refused .nil nofun nofun, fun _ _ ↦ rfl, ?_⟩
      rintro _ ⟨⟩
      exact .of_faultless (fun _ hf ↦ Nat.not_lt_zero _ hf.lt) .nil
    | cons t ts =>
      obtain ⟨es, ht, hl, hc⟩ := tokens_logs c s trace (t :: ts)
      refine ⟨es, ht, hl.mono fun d hd ↦ ?_, nofun, ?_⟩
      · obtain ⟨k, i, cl, hk, hcl, hd⟩ := hd
        exact ⟨t :: ts, hr, k, i, cl, (firstFault_congr c.tracer_clause_alike rfl).1 hk, hcl, hd⟩
      · rintro _ ⟨⟩
        exact hc.of_alike c.tracer_clause_alike rfl rfl

theorem trace_settle (c : Compiler σ) (notice : Cause → Option Log.Record)
    (build : Build (σ × List LookupEvent) Predicate) (s : σ) (trace : List LookupEvent) :
    (runFrom (s, trace) (c.tracer.settle notice build)).2.2 =
      (runFrom (s, trace) build).2.2 := by
  rw [runFrom_settle]
  rcases runFrom (s, trace) build with ⟨(cause | d) | p, t⟩
  · dsimp only
    cases notice cause with
    | none => rfl
    | some r => rfl
  · rfl
  · rfl

theorem trace_parse (c : Compiler σ) (s : σ) (text : Option String) :
    (runFrom (s, []) (c.tracer.parse text)).2.2 = (runFrom (s, []) (c.tracer.query text)).2.2 :=
  c.trace_settle _ _ s []

/-- The lookups of a compilation, which are listed without a change to what it comes to: none for a
text that cannot be split into tokens, and else those for the clauses, in their order and up to the
first fault. -/
theorem lookups_in_clause_order (c : Compiler σ) (s : σ) (text : Option String) :
    let run := runFrom (s, []) (c.tracer.parse text)
    (run.1, run.2.1) = runFrom s (c.parse text) ∧
      (∀ cause, Token.read (text.getD "") = .error cause → run.2.2 = []) ∧
      ∀ ts, Token.read (text.getD "") = .ok ts → c.Covers s ts run.2.2 := by
  intro run
  obtain ⟨ho, hs⟩ := c.tracer_parse_alike text (s, []) s rfl
  obtain ⟨es, ht, -, hread, hcovers⟩ := c.query_logs s [] text
  have htrace : run.2.2 = es := (c.trace_parse s text).trans ht
  rw [htrace]
  exact ⟨Prod.ext ho hs, hread, hcovers⟩

end Compiler

end GroupSearch
