import GroupSearch.Proofs.Rendering
import GroupSearch.Proofs.Trace

namespace GroupSearch

open Compiler

/-- The last reference that was looked up stands for nothing: no accounts, or neither a group nor a
best suggestion. -/
def Unanswered (es : List LookupEvent) : Prop :=
  (∃ front r, es = front ++ [.accounts r (.ok [])]) ∨
    ∃ front r suggestions, bestSuggestion suggestions r = none ∧
      es = front ++ [.group r (.ok none), .suggestions r (.ok suggestions)]

theorem Resolved.not_unanswered {es : List LookupEvent} (h : Resolved es) : ¬ Unanswered es := by
  rintro (⟨front, r, he⟩ | ⟨front, r, suggestions, hb, he⟩)
  -- The last lookup tells how the references in front of it were resolved.
  · have hlast := congrArg List.getLast? he
    cases h with
    | nil => simp at hlast
    | accounts _ hids =>
      simp only [List.getLast?_append, List.getLast?_singleton, Option.some_or, Option.some.injEq,
        LookupEvent.accounts.injEq, Except.ok.injEq] at hlast
      exact hids hlast.2
    | group => simp at hlast
    | suggestion => simp at hlast
  · have hlast := congrArg List.getLast? he
    cases h with
    | nil => simp at hlast
    | accounts => simp at hlast
    | group => simp at hlast
    | suggestion _ hb' =>
      simp only [List.getLast?_append, List.getLast?_cons_cons, List.getLast?_singleton,
        Option.some_or, Option.some.injEq, LookupEvent.suggestions.injEq, Except.ok.injEq] at hlast
      obtain ⟨rfl, rfl⟩ := hlast
      cases hb.symm.trans hb'

/-- How the outcome of a compilation is told from the lookups that were made, and from the defects
`own` that the query has without them. -/
structure Provenance (own : Defect → Prop) (outcome : Except Defect Outcome)
    (es : List LookupEvent) : Prop where
  unavailable : (∃ f : Failure, outcome = .ok (.error f) ∧ f.kind = .resolverUnavailable) ↔
    ∃ e ∈ es, ∃ reason, e.failure? = some (.unavailable reason)
  reported {e : LookupEvent} {reason : String} : e ∈ es →
    e.failure? = some (.unavailable reason) →
    outcome = .ok (.error (Cause.lookupUnavailable e.referent reason).failure)
  escaped (d : Defect) : outcome = .error d ↔
    (∃ e ∈ es, e.failure? = some (.defect d)) ∨ (∀ e ∈ es, e.failure? = none) ∧ own d
  last {e : LookupEvent} : e ∈ es → e.failure? ≠ none →
    ∃ front, es = front ++ [e] ∧ ∀ e' ∈ front, e'.failure? = none
  notFound : (∃ f : Failure, outcome = .ok (.error f) ∧ f.kind = .notFound) ↔
    (∀ e ∈ es, e.failure? = none) ∧ Unanswered es

namespace Provenance

variable {own : Defect → Prop} {outcome : Except Defect Outcome} {es : List LookupEvent}

/-- Where no lookup has failed, there is nothing to blame but the query and what was not found. -/
theorem of_answered (hes : ∀ e ∈ es, e.failure? = none) (hd : ∀ d, outcome = .error d ↔ own d)
    (hu : ∀ f : Failure, outcome = .ok (.error f) → f.kind ≠ .resolverUnavailable)
    (hn : (∃ f : Failure, outcome = .ok (.error f) ∧ f.kind = .notFound) ↔ Unanswered es) :
    Provenance own outcome es where
  unavailable := by
    constructor
    · rintro ⟨f, hf, hk⟩
      exact (hu f hf hk).elim
    · rintro ⟨e, he, reason, hr⟩
      cases (hes e he).symm.trans hr
  reported he hr := by cases (hes _ he).symm.trans hr
  escaped d := by
    rw [hd]
    constructor
    · intro h
      exact .inr ⟨hes, h⟩
    · rintro (⟨e, he, hr⟩ | ⟨-, h⟩)
      · cases (hes e he).symm.trans hr
      · exact h
  last he hf := (hf (hes _ he)).elim
  notFound := by
    rw [hn]
    exact (and_iff_right hes).symm

theorem of_failed {e : LookupEvent} {error : LookupError} (hes : ∀ e' ∈ es, e'.failure? = none)
    (he : e.failure? = some error) :
    Provenance own (settled (.error (error.stop e.referent))) (es ++ [e]) := by
  have hmem : ∀ e' ∈ es ++ [e], e'.failure? ≠ none → e' = e := by
    intro e' he' hf
    rcases List.mem_append.1 he' with h | h
    · exact (hf (hes e' h)).elim
    · exact List.mem_singleton.1 h
  have hlast : e ∈ es ++ [e] := List.mem_append_right es (List.mem_singleton.2 rfl)
  have hsome (e' : LookupEvent) (he' : e' ∈ es ++ [e]) (error' : LookupError)
      (hf : e'.failure? = some error') : e' = e ∧ error' = error := by
    obtain rfl := hmem e' he' (by rw [hf]; nofun)
    exact ⟨rfl, Option.some.inj (hf.symm.trans he)⟩
  constructor
  case unavailable =>
    constructor
    · rintro ⟨f, hf, hk⟩
      cases error with
      | unavailable reason => exact ⟨e, hlast, reason, he⟩
      | defect d => cases hf
    · rintro ⟨e', he', reason, hr⟩
      obtain ⟨rfl, rfl⟩ := hsome e' he' _ hr
      exact ⟨_, rfl, rfl⟩
  case reported =>
    intro e' reason he' hr
    obtain ⟨rfl, rfl⟩ := hsome e' he' _ hr
    rfl
  case escaped =>
    intro d
    constructor
    · intro h
      cases error with
      | unavailable reason => cases h
      | defect d' =>
        cases h
        exact .inl ⟨e, hlast, he⟩
    · rintro (⟨e', he', hr⟩ | ⟨hn, -⟩)
      · obtain ⟨rfl, rfl⟩ := hsome e' he' _ hr
        rfl
      · cases (hn e hlast).symm.trans he
  case last =>
    intro e' he' hf
    obtain rfl := hmem e' he' hf
    exact ⟨es, rfl, hes⟩
  case notFound =>
    constructor
    · rintro ⟨f, hf, hk⟩
      cases error with
      | unavailable reason =>
        cases hf
        cases hk
      | defect d => cases hf
    · rintro ⟨hn, -⟩
      cases (hn e hlast).symm.trans he

end Provenance

theorem Leads.provenance {own : Defect → Prop} {es : List LookupEvent}
    {r : Except Stop Predicate} (h : Leads own es r)
    (ho : ∀ d, own d → r = .error (.escaped d)) : Provenance own (settled r) es := by
  cases h with
  | built h =>
    refine .of_answered h.failure?_eq_none (fun d ↦ ⟨nofun, fun hd ↦ nomatch ho d hd⟩) nofun
      ⟨?_, fun hu ↦ (h.not_unanswered hu).elim⟩
    rintro ⟨f, hf, -⟩
    cases hf
  | @refused es cause h hn hu =>
    refine .of_answered h.failure?_eq_none (fun d ↦ ⟨nofun, fun hd ↦ nomatch ho d hd⟩) ?_
      ⟨?_, fun hu ↦ (h.not_unanswered hu).elim⟩
    · rintro f ⟨⟩
      exact hu
    · rintro ⟨f, hf, hk⟩
      cases hf
      exact (hn hk).elim
  | @defective es d h hd =>
    refine .of_answered h.failure?_eq_none (fun d' ↦ ⟨?_, fun hd' ↦ ?_⟩) nofun
      ⟨?_, fun hu ↦ (h.not_unanswered hu).elim⟩
    · rintro ⟨⟩
      exact hd
    · rw [ho d' hd']
      rfl
    · rintro ⟨f, hf, -⟩
      cases hf
  | @unknownAccount es r h =>
    have hes : ∀ e ∈ es ++ [.accounts r (.ok [])], e.failure? = none :=
      List.forall_mem_append.2 ⟨h.failure?_eq_none, List.forall_mem_singleton.2 rfl⟩
    refine .of_answered hes (fun d ↦ ⟨nofun, fun hd ↦ nomatch ho d hd⟩) ?_
      ⟨fun _ ↦ .inl ⟨es, r, rfl⟩, fun _ ↦ ⟨_, rfl, rfl⟩⟩
    rintro f ⟨⟩
    nofun
  | @unknownGroup es r suggestions h hb =>
    have hes : ∀ e ∈ es ++ [.group r (.ok none), .suggestions r (.ok suggestions)],
        e.failure? = none :=
      List.forall_mem_append.2 ⟨h.failure?_eq_none,
        List.forall_mem_cons.2 ⟨rfl, List.forall_mem_singleton.2 rfl⟩⟩
    refine .of_answered hes (fun d ↦ ⟨nofun, fun hd ↦ nomatch ho d hd⟩) ?_
      ⟨fun _ ↦ .inr ⟨es, r, suggestions, hb, rfl⟩, fun _ ↦ ⟨_, rfl, rfl⟩⟩
    rintro f ⟨⟩
    nofun
  | failed hes he => exact .of_failed hes he

namespace Compiler

variable {σ : Type}

theorem clause_of_hasDefect (c : Compiler σ) (s : σ) {cl : Clause} {d : Defect}
    (h : cl.HasDefect d) : (runFrom s (c.clause cl)).1 = .error (.escaped d) := by
  obtain ⟨value, k, n, rfl, hn, hlt, rfl⟩ := h
  exact (c.runFrom_operator_limit s value).trans (limitTo_eq_escaped_iff.2 ⟨k, n, hn, hlt, rfl⟩)

/-- A query comes to what its first fault comes to, if that is a clause that always comes to the
same. -/
theorem query_of_firstFault {c : Compiler σ} {s : σ} {text : Option String} {ts : List Token}
    {k i : Nat} {cl : Clause} {stop : Stop} (hr : Token.read (text.getD "") = .ok ts)
    (hk : c.FirstFault s ts k) (hcl : ts[k]? = some ⟨.clause cl, i⟩)
    (hstop : ∀ t, (runFrom t (c.clause cl)).1 = .error stop) :
    (runFrom s (c.query text)).1 = .error stop := by
  have hq : c.query text = c.tokens ts := by
    unfold query
    rw [hr]
    cases ts with
    | nil => cases hcl
    | cons t ts => rfl
  rw [hq]
  rcases ho : runFrom s (c.tokens ts) with ⟨stop | p, t⟩
  · rcases (ends_of_tokens ho).eq_of_firstFault hk with
      ⟨u, hu, hmem, -⟩ | ⟨cl', i', vs, t, hcl', -, he⟩
    · cases hcl.symm.trans hu
      simp at hmem
    · cases hcl.symm.trans hcl'
      exact he.symm.trans (hstop t)
  · exact ((sentence_of_ok ho).2 k hk.1).elim

theorem query_of_ownDefect {c : Compiler σ} {s : σ} {text : Option String} {d : Defect}
    (h : c.OwnDefect s text d) : (runFrom s (c.query text)).1 = .error (.escaped d) := by
  obtain ⟨ts, hr, k, i, cl, hk, hcl, hd⟩ := h
  exact query_of_firstFault hr hk hcl fun t ↦ c.clause_of_hasDefect t hd

theorem parse_provenance (c : Compiler σ) (s : σ) (text : Option String) :
    Provenance (c.OwnDefect s text) (runFrom (s, []) (c.tracer.parse text)).1
      (runFrom (s, []) (c.tracer.parse text)).2.2 := by
  have hquery := (c.tracer_query_alike text (s, []) s rfl).1
  obtain ⟨es, ht, hl, -⟩ := c.query_logs s [] text
  rw [trace_parse, ht, parse_eq_settled]
  exact hl.provenance fun d hd ↦ hquery.trans (query_of_ownDefect hd)

def noted (c : Compiler σ) (s : σ) (text : Option String) : σ :=
  c.lookups.note ⟨.debug, s!"Compiling query: {Text.quotedOption text}"⟩ s

theorem compile_provenance (c : Compiler σ) (s : σ) (text : Option String) :
    Provenance (c.OwnDefect (c.noted s text) text) (runFrom (s, []) (c.tracer.compile text)).1
      (runFrom (s, []) (c.tracer.compile text)).2.2 := by
  -- The notes in front of the query and behind it are no lookups.
  let s' := c.noted s text
  have hrun : runFrom (s, []) (c.tracer.compile text) = runFrom (s', []) (do
      let outcome ← c.tracer.parse text
      modify (c.tracer.lookups.note (verdict outcome))
      return outcome) := rfl
  have hp := c.parse_provenance s' text
  rw [hrun, runFrom_bind]
  rcases ho : runFrom (s', []) (c.tracer.parse text) with ⟨d | outcome, t⟩
  · rwa [ho] at hp
  · rwa [ho] at hp

/-- Whatever the lookups answer or fail with, the outcome of a compilation is told from them, but
for a query whose first fault is a limit that is too long to be read. -/
theorem failures_traced (c : Compiler σ) (s : σ) (text : Option String) :
    let run := runFrom (s, []) (c.tracer.parse text)
    (run.1, run.2.1) = runFrom s (c.parse text) ∧
      Provenance (c.OwnDefect s text) run.1 run.2.2 := by
  intro run
  obtain ⟨ho, hs⟩ := c.tracer_parse_alike text (s, []) s rfl
  exact ⟨Prod.ext ho hs, c.parse_provenance s text⟩

/-- A query of one limit with a numeral that is too long: a defect gets through, and no lookup is
made. -/
theorem parse_long_limit (c : Compiler σ) (s : σ) {digits : List Char} {k : Nat} {n : Int}
    (hplain : Operand.isPlain digits = true) (hn : Text.Decimal digits k n)
    (hk : Text.mostDigits < k) :
    let run := runFrom (s, [])
      (c.tracer.parse (some (String.ofList ("limit".toList ++ ':' :: digits))))
    run.1 = .error (.overlong ⟨k⟩) ∧ run.2.2 = [] := by
  intro run
  let limit : Clause := .operator "limit" (String.ofList digits)
  have hread : Token.read (String.ofList ("limit".toList ++ ':' :: digits)) =
      .ok [⟨.clause limit, 0⟩] := by
    have hkey : Token.IsKeyword "limit".toList := Atom.isKeyword_of_mem _ (by simp)
    exact hkey.read hplain
  have hdefect : limit.HasDefect (.overlong ⟨k⟩) :=
    ⟨_, k, n, rfl, by rwa [String.toList_ofList], hk, rfl⟩
  have hfirst : c.FirstFault s [⟨.clause limit, 0⟩] 0 := by
    have hb : Query.Built c.clause s [] [] s := rfl
    have hf : c.FailsAt s [⟨.clause limit, 0⟩] 0 (.escaped (.overlong ⟨k⟩)) :=
      failsAt_of_built hb (c.clause_of_hasDefect s hdefect)
    exact firstFault_of_failsAt (Query.viable_iff_run.2 ⟨_, rfl⟩) hb hf
  have hown : c.OwnDefect s (some (String.ofList ("limit".toList ++ ':' :: digits)))
      (.overlong ⟨k⟩) := ⟨_, hread, 0, 0, limit, hfirst, rfl, hdefect⟩
  obtain ⟨ho, -⟩ := c.tracer_parse_alike _ (s, []) s rfl
  refine ⟨ho.trans ?_, ?_⟩
  · rw [parse_eq_settled, query_of_ownDefect hown]
    rfl
  · obtain ⟨es, ht, -, -, hcovers⟩ := c.query_logs s [] _
    refine (c.trace_parse s _).trans (ht.trans ?_)
    refine ((hcovers _ hread).fault hfirst).eq_nil ?_
    exact List.forall_mem_singleton.2 rfl

/-- A one behind so many zeros that it is not read: an exception without a lookup to have had it. -/
theorem long_limit_escapes :
    let c : Compiler Unit :=
      ⟨.v5, ⟨fun _ ↦ pure [], fun _ ↦ pure none, fun _ ↦ pure [], fun _ s ↦ s⟩⟩
    let digits := List.replicate 4300 '0' ++ ['1']
    let run := runFrom ((), [])
      (c.tracer.parse (some (String.ofList ("limit".toList ++ ':' :: digits))))
    run.1 = .error (.overlong ⟨4301⟩) ∧ run.2.2 = [] := by
  intro c digits
  have hplain : Operand.isPlain digits = true := by
    rw [Operand.isPlain, List.all_append, List.all_replicate]
    rfl
  exact c.parse_long_limit () hplain (Text.decimal_one 4300) (by decide)

end Compiler

end GroupSearch
