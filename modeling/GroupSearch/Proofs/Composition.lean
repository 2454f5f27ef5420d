import GroupSearch.Proofs.FirstFault
import GroupSearch.Proofs.Snapshot
import GroupSearch.Proofs.Spelling
import GroupSearch.Proofs.Upgrade

namespace GroupSearch

namespace Grammar

variable {α : Type}

mutual

theorem Disjunction.shift {ts : List Token} {vs : List (Formula α)} {p : Formula α}
    (h : Disjunction ts vs p) (k : Nat) : Disjunction (ts.map (Token.shift k)) vs p := by
  match h with
  | .single h => exact .single (h.shift k)
  | .several h hs =>
    rw [List.map_append]
    exact .several (h.shift k) (hs.shift k)

theorem Disjuncts.shift {ts : List Token} {vs ps : List (Formula α)} (h : Disjuncts ts vs ps)
    (k : Nat) : Disjuncts (ts.map (Token.shift k)) vs ps := by
  match h with
  | .nil => exact .nil
  | .cons h hs =>
    rw [List.map_cons, List.map_append]
    exact .cons (h.shift k) (hs.shift k)

theorem Conjunction.shift {ts : List Token} {vs : List (Formula α)} {p : Formula α}
    (h : Conjunction ts vs p) (k : Nat) : Conjunction (ts.map (Token.shift k)) vs p := by
  match h with
  | .single h => exact .single (h.shift k)
  | .several h hs =>
    rw [List.map_append]
    exact .several (h.shift k) (hs.shift k)

theorem Conjuncts.shift {ts : List Token} {vs ps : List (Formula α)} (h : Conjuncts ts vs ps)
    (k : Nat) : Conjuncts (ts.map (Token.shift k)) vs ps := by
  match h with
  | .nil => exact .nil
  | .and h hs =>
    rw [List.map_cons, List.map_append]
    exact .and (h.shift k) (hs.shift k)
  | .next h hs =>
    rw [List.map_append]
    exact .next (h.shift k) (hs.shift k)

theorem Negation.shift {ts : List Token} {vs : List (Formula α)} {p : Formula α}
    (h : Negation ts vs p) (k : Nat) : Negation (ts.map (Token.shift k)) vs p := by
  match h with
  | .not h =>
    rw [List.map_cons]
    exact .not (h.shift k)
  | .primary h => exact .primary (h.shift k)

theorem Primary.shift {ts : List Token} {vs : List (Formula α)} {p : Formula α}
    (h : Primary ts vs p) (k : Nat) : Primary (ts.map (Token.shift k)) vs p := by
  match h with
  | .group h =>
    rw [List.map_cons, List.map_append]
    exact .group (h.shift k)
  | .clause => exact .clause

end

theorem Disjunction.ne_nil {ts : List Token} {vs : List (Formula α)} {p : Formula α}
    (h : Disjunction ts vs p) : ts ≠ [] := by
  rintro rfl
  have hr := h.run [] true
  cases hr

/-- In front of the last clause of a derivation no parenthesis is open but those from before. -/
theorem Disjunction.run_front {ts : List Token} {cl : Clause} {i : Nat} {vs : List (Formula α)}
    {p : Formula α} (h : Disjunction (ts ++ [⟨.clause cl, i⟩]) vs p) (opened : List Nat) :
    ∃ wanting, Reading.run ⟨opened, true⟩ ts = some ⟨opened, wanting⟩ := by
  have hr := h.run opened true
  rw [Reading.run_append] at hr
  obtain ⟨⟨opened', wanting⟩, hts, hcl⟩ := Option.bind_eq_some_iff.1 hr
  cases hcl
  exact ⟨wanting, hts⟩

end Grammar

namespace Query

theorem clauses_shift (k : Nat) (ts : List Token) :
    clauses (ts.map (Token.shift k)) = clauses ts := by
  rw [clauses, List.filterMap_map]
  rfl

def enclosed (query : String) : List Char := '(' :: (query.toList ++ [')'])

def enclose (i : Nat) (query : String) (ts : List Token) : List Token :=
  ⟨.openParen, i⟩ :: (ts.map (Token.shift (i + 1)) ++ [⟨.closeParen, i + 1 + query.length⟩])

theorem clauses_enclose (i : Nat) (query : String) (ts : List Token) :
    clauses (enclose i query ts) = clauses ts := by
  rw [enclose, clauses_group, clauses_shift]

theorem primary_enclose {ts : List Token} {vs : List Predicate} {p : Predicate}
    (h : Grammar.Disjunction ts vs p) (i : Nat) (query : String) :
    Grammar.Primary (enclose i query ts) vs p := .group (h.shift (i + 1))

end Query

namespace Token

open Query

variable {query text : String} {ts : List Token}

theorem endsInDash_eq (h : read query = .ok ts) :
    endsInDash query =
      (query.toList.getLast? == some '-' && ts.any fun t ↦ t.position + 1 == query.length) := by
  rw [endsInDash, h]

theorem spelled_of_read (h : read query = .ok ts) : Spelled [] 0 query.toList ts :=
  spelled_of_readFrom h

theorem read_of_spelled (h : Spelled [] 0 text.toList ts) : read text = .ok ts :=
  readFrom_eq_ok_iff.2 h

theorem spelled_closeParen (rest : List Char) (i : Nat) :
    Spelled rest i [')'] [⟨.closeParen, i⟩] := .single .closeParen

theorem spelled_openParen {rest cs : List Char} {i : Nat} (h : Spelled rest (i + 1) cs ts) :
    Spelled rest i ('(' :: cs) (⟨.openParen, i⟩ :: ts) := .lexeme (x := ['(']) .openParen h

/-- Between parentheses a query keeps its tokens. -/
theorem spelled_enclosed (h : read query = .ok ts) (hd : endsInDash query = false)
    (rest : List Char) (i : Nat) : Spelled rest i (enclosed query) (enclose i query ts) := by
  have hlast : ∀ t ∈ ts, t.position + 1 = 0 + query.toList.length →
      query.toList.getLast? ≠ some '-' := by
    intro t ht hpos hl
    rw [Nat.zero_add, String.length_toList] at hpos
    rw [endsInDash_eq h, hl, Bool.and_eq_false_iff] at hd
    rcases hd with hd | hd
    · cases hd
    · exact List.any_eq_false.1 hd t ht (beq_iff_eq.2 hpos)
  have hin : Spelled (')' :: rest) (i + 1) query.toList (ts.map (shift (i + 1))) := by
    have hs := ((spelled_of_read h).inside hlast rest).shift (i + 1)
    rwa [Nat.zero_add] at hs
  have hclose := spelled_closeParen rest (i + 1 + query.length)
  rw [← String.length_toList] at hclose
  exact spelled_openParen (hin.append hclose)

theorem spelled_between {l : Lexeme} {x rest : List Char} (h : ∀ r, Spelling l x (' ' :: r))
    (i : Nat) : Spelled rest i (' ' :: (x ++ [' '])) [⟨l, i + 1⟩] :=
  .blank rfl (.lexeme (h rest) (.blank rfl .nil))

theorem read_enclosed_dash {before : List Char} {us : List Token}
    (hq : query.toList = before ++ ['-']) (hb : Spelled ['-', ')'] 0 before us) :
    read ("(" ++ query ++ ")") = .ok (⟨.openParen, 0⟩ ::
      (us.map (shift 1) ++ [⟨.not, query.length⟩, ⟨.closeParen, query.length + 1⟩])) := by
  have hlen : query.length = 0 + 1 + before.length := by
    rw [← String.length_toList, hq, List.length_append, List.length_singleton]
    omega
  have hdash : Spelled [')'] query.length ['-'] [⟨.not, query.length⟩] :=
    .single (.dash rfl)
  have hend : Spelled [] query.length (['-'] ++ [')'])
      ([⟨.not, query.length⟩] ++ [⟨.closeParen, query.length + 1⟩]) :=
    hdash.append (spelled_closeParen [] (query.length + 1))
  rw [hlen] at hend
  have hall := spelled_openParen ((hb.shift 1).append hend)
  have ht : ("(" ++ query ++ ")").toList = '(' :: (before ++ (['-'] ++ [')'])) := by
    simp [String.toList_append, hq]
  rw [← ht, ← hlen] at hall
  exact read_of_spelled hall

end Token

namespace Compiler

open Query

variable {σ : Type} (c : Compiler σ)

def Yields (s : σ) (query : String) (p : Predicate) : Prop :=
  (runFrom s (c.compile (some query))).1 = .ok (.ok p)

/-- What queries that compile come to when they are put between parentheses and are joined or
negated, as long as all compilations start in states of one kind. -/
structure Composes (reached : σ → Prop) : Prop where
  enclosed {s t : σ} {q : String} {p : Predicate} : reached s → reached t →
    c.Yields s q p → Token.endsInDash q = false → c.Yields t ("(" ++ q ++ ")") p
  and {s s' t : σ} {q q' : String} {p p' : Predicate} : reached s → reached s' → reached t →
    c.Yields s q p → Token.endsInDash q = false → c.Yields s' q' p' → Token.endsInDash q' = false →
    c.Yields t ("(" ++ q ++ ") AND (" ++ q' ++ ")") (.all p [p'])
  next {s s' t : σ} {q q' : String} {p p' : Predicate} : reached s → reached s' → reached t →
    c.Yields s q p → Token.endsInDash q = false → c.Yields s' q' p' → Token.endsInDash q' = false →
    c.Yields t ("(" ++ q ++ ") (" ++ q' ++ ")") (.all p [p'])
  or {s s' t : σ} {q q' : String} {p p' : Predicate} : reached s → reached s' → reached t →
    c.Yields s q p → Token.endsInDash q = false → c.Yields s' q' p' → Token.endsInDash q' = false →
    c.Yields t ("(" ++ q ++ ") OR (" ++ q' ++ ")") (.any p [p'])
  not {s t : σ} {q : String} {p : Predicate} : reached s → reached t →
    c.Yields s q p → Token.endsInDash q = false → c.Yields t ("NOT (" ++ q ++ ")") (.not p)
  minus {s t : σ} {q : String} {p : Predicate} : reached s → reached t →
    c.Yields s q p → Token.endsInDash q = false → c.Yields t ("-(" ++ q ++ ")") (.not p)
  dash {s t : σ} {q : String} {p : Predicate} : reached s → reached t →
    c.Yields s q p → Token.endsInDash q = true →
    (runFrom t (c.compile (some ("(" ++ q ++ ")")))).1 =
      .ok (.error ⟨.grammar, s!"Unexpected ')' at position {q.length + 1}"⟩)

def Builds (ts : List Token) (vs : List Predicate) : Prop := ∀ s, ∃ t, Built c.clause s ts vs t

/-- What a query compiles to, by the grammar. -/
structure Derives (query : String) (ts : List Token) (vs : List Predicate) (p : Predicate) :
    Prop where
  read : Token.read query = .ok ts
  derivation : Grammar.Disjunction ts vs p
  builds : c.Builds ts vs

variable {c} {s : σ} {query query' text : String} {ts us : List Token} {vs ws : List Predicate}
  {p p' : Predicate}

theorem Builds.append (h : c.Builds ts vs) (h' : c.Builds us ws) :
    c.Builds (ts ++ us) (vs ++ ws) := by
  intro s
  obtain ⟨t, ht⟩ := h s
  obtain ⟨u, hu⟩ := h' t
  exact ⟨u, ht.append hu⟩

theorem Builds.of_clauses_eq (h : c.Builds ts vs) (he : clauses us = clauses ts) :
    c.Builds us vs := by
  intro s
  obtain ⟨t, ht⟩ := h s
  refine ⟨t, ?_⟩
  rwa [Built, he]

theorem builds_of_built (hl : c.lookups.Steady) {t : σ} (h : Built c.clause s ts vs t) :
    c.Builds ts vs := by
  intro a
  have ha : (runFrom s ((clauses ts).mapM c.clause)).1 =
      (runFrom a ((clauses ts).mapM c.clause)).1 :=
    (Alike.mapM (clause_alike hl.simulates) (clauses ts) s a trivial).1
  rw [show runFrom s ((clauses ts).mapM c.clause) = (.ok vs, t) from h] at ha
  exact ⟨(runFrom a ((clauses ts).mapM c.clause)).2, Prod.ext ha.symm rfl⟩

theorem derives_of_yields (hl : c.lookups.Steady) (h : c.Yields s query p) :
    ∃ ts vs, c.Derives query ts vs p := by
  rw [Yields, compile_eq_settled, settled_eq_ok] at h
  unfold Compiler.query at h
  rw [Option.getD_some] at h
  split at h
  case h_1 => cases h
  case h_2 => cases h
  case h_3 t ts hr =>
    obtain ⟨vs, hb, hd⟩ := c.derivation_of_tokens (Prod.ext h rfl)
    exact ⟨t :: ts, vs, hr, hd, builds_of_built hl hb⟩

theorem compile_eq_tokens (hr : Token.read query = .ok ts) (hts : ts ≠ []) (s : σ) :
    ∃ t, (runFrom s (c.compile (some query))).1 = settled (runFrom t (c.tokens ts)).1 := by
  cases ts with
  | nil => exact (hts rfl).elim
  | cons t ts =>
    refine ⟨c.lookups.note ⟨.debug, s!"Compiling query: {Text.quotedOption (some query)}"⟩ s, ?_⟩
    rw [compile_eq_settled]
    unfold Compiler.query
    rw [Option.getD_some, hr]

theorem Derives.yields (h : c.Derives query ts vs p) (s : σ) : c.Yields s query p := by
  obtain ⟨t, ht⟩ := compile_eq_tokens (c := c) h.read h.derivation.ne_nil s
  obtain ⟨u, hu⟩ := h.builds t
  rw [Yields, ht, c.tokens_of_derivation h.derivation hu]
  rfl

namespace Derives

theorem builds_enclose (h : c.Derives query ts vs p) (i : Nat) :
    c.Builds (enclose i query ts) vs :=
  h.builds.of_clauses_eq (clauses_enclose i query ts)

theorem read_behind (h : c.Derives query ts vs p) (hd : Token.endsInDash query = false)
    {front : List Char} (hf : Token.Spelled (Query.enclosed query) 0 front us)
    (ht : text.toList = front ++ Query.enclosed query) :
    Token.read text = .ok (us ++ enclose front.length query ts) := by
  rw [← List.append_nil (Query.enclosed query)] at hf
  have hq := Token.spelled_enclosed h.read hd [] (0 + front.length)
  have hall := hf.append hq
  rw [← ht, Nat.zero_add] at hall
  exact Token.read_of_spelled hall

theorem enclosed (h : c.Derives query ts vs p) (hd : Token.endsInDash query = false) :
    c.Derives ("(" ++ query ++ ")") (enclose 0 query ts) vs p where
  read := by
    have hf : Token.Spelled (Query.enclosed query) 0 [] [] := .nil
    exact h.read_behind hd hf (by simp [Query.enclosed, String.toList_append])
  derivation := .single (.single (.primary (primary_enclose h.derivation 0 query)))
  builds := h.builds_enclose 0

theorem negated (h : c.Derives query ts vs p) (hd : Token.endsInDash query = false)
    {front : List Char} {i : Nat}
    (hf : Token.Spelled (Query.enclosed query) 0 front [⟨.not, i⟩])
    (ht : text.toList = front ++ Query.enclosed query) :
    c.Derives text (⟨.not, i⟩ :: enclose front.length query ts) vs (.not p) where
  read := h.read_behind hd hf ht
  derivation := .single (.single (.not (.primary (primary_enclose h.derivation _ query))))
  builds := (h.builds_enclose front.length).of_clauses_eq rfl

section Joined

variable (h : c.Derives query ts vs p) (hd : Token.endsInDash query = false)
  (h' : c.Derives query' us ws p') (hd' : Token.endsInDash query' = false)

include h hd h' hd'

theorem read_joined {between : List Char} {js : List Token}
    (hb : Token.Spelled (Query.enclosed query') (Query.enclosed query).length between js)
    (ht : text.toList = Query.enclosed query ++ between ++ Query.enclosed query') :
    ∃ j, Token.read text = .ok (enclose 0 query ts ++ js ++ enclose j query' us) := by
  have hq := Token.spelled_enclosed h.read hd (between ++ Query.enclosed query') 0
  rw [← Nat.zero_add (Query.enclosed query).length] at hb
  exact ⟨_, h'.read_behind hd' (hq.append hb) ht⟩

theorem and : ∃ ts', c.Derives ("(" ++ query ++ ") AND (" ++ query' ++ ")") ts' (vs ++ ws)
    (.all p [p']) := by
  have ht : ("(" ++ query ++ ") AND (" ++ query' ++ ")").toList =
      Query.enclosed query ++ ' ' :: (['A', 'N', 'D'] ++ [' ']) ++ Query.enclosed query' := by
    simp [Query.enclosed, String.toList_append]
  obtain ⟨j, hr⟩ := h.read_joined hd h' hd'
    (Token.spelled_between (fun r ↦ .and (Operand.endsWord_cons r rfl)) _) ht
  have hs := Grammar.Conjuncts.and (i := (Query.enclosed query).length + 1)
    (.primary (primary_enclose h'.derivation j query')) .nil
  rw [List.append_nil, List.append_nil] at hs
  rw [List.append_assoc] at hr
  refine ⟨_, hr, .single (.several (.primary (primary_enclose h.derivation 0 query)) hs), ?_⟩
  exact (h.builds_enclose 0).append ((h'.builds_enclose j).of_clauses_eq rfl)

theorem next : ∃ ts', c.Derives ("(" ++ query ++ ") (" ++ query' ++ ")") ts' (vs ++ ws)
    (.all p [p']) := by
  have ht : ("(" ++ query ++ ") (" ++ query' ++ ")").toList =
      Query.enclosed query ++ [' '] ++ Query.enclosed query' := by
    simp [Query.enclosed, String.toList_append]
  obtain ⟨j, hr⟩ := h.read_joined hd h' hd' (.blank rfl .nil) ht
  have hs := Grammar.Conjuncts.next
    (.primary (primary_enclose h'.derivation j query')) .nil
  rw [List.append_nil, List.append_nil] at hs
  rw [List.append_nil] at hr
  refine ⟨_, hr, .single (.several (.primary (primary_enclose h.derivation 0 query)) hs), ?_⟩
  exact (h.builds_enclose 0).append (h'.builds_enclose j)

theorem or : ∃ ts', c.Derives ("(" ++ query ++ ") OR (" ++ query' ++ ")") ts' (vs ++ ws)
    (.any p [p']) := by
  have ht : ("(" ++ query ++ ") OR (" ++ query' ++ ")").toList =
      Query.enclosed query ++ ' ' :: (['O', 'R'] ++ [' ']) ++ Query.enclosed query' := by
    simp [Query.enclosed, String.toList_append]
  obtain ⟨j, hr⟩ := h.read_joined hd h' hd'
    (Token.spelled_between (fun r ↦ .or (Operand.endsWord_cons r rfl)) _) ht
  have hs := Grammar.Disjuncts.cons (i := (Query.enclosed query).length + 1)
    (.single (.primary (primary_enclose h'.derivation j query'))) .nil
  rw [List.append_nil, List.append_nil] at hs
  rw [List.append_assoc] at hr
  refine ⟨_, hr, .several (.single (.primary (primary_enclose h.derivation 0 query))) hs, ?_⟩
  exact (h.builds_enclose 0).append ((h'.builds_enclose j).of_clauses_eq rfl)

end Joined

/-- Behind a dash of its own at the end, the closing parenthesis comes where an operand must. -/
theorem dash (h : c.Derives query ts vs p) (hd : Token.endsInDash query = true) (s : σ) :
    (runFrom s (c.compile (some ("(" ++ query ++ ")")))).1 =
      .ok (.error ⟨.grammar, s!"Unexpected ')' at position {query.length + 1}"⟩) := by
  rw [Token.endsInDash_eq h.read, Bool.and_eq_true, beq_iff_eq, List.any_eq_true] at hd
  obtain ⟨hlast, t, ht, hpos⟩ := hd
  rw [beq_iff_eq, ← String.length_toList, ← Nat.zero_add query.toList.length] at hpos
  obtain ⟨before, us, hq, rfl, hb⟩ :=
    (Token.spelled_of_read h.read).ends_in_dash ht hpos hlast
  let front : List Token := ⟨.openParen, 0⟩ :: (us.map (Token.shift 1) ++ [⟨.not, query.length⟩])
  have hread := Token.read_enclosed_dash hq (hb [')'])
  have hfront : ⟨.openParen, 0⟩ :: (us.map (Token.shift 1) ++
      [⟨.not, query.length⟩, ⟨.closeParen, query.length + 1⟩]) =
      front ++ [⟨.closeParen, query.length + 1⟩] := by simp [front]
  rw [hfront] at hread
  -- In front of the dash only the parenthesis around the query is open.
  have hrun : Reading.start.run front = some ⟨[0], true⟩ := by
    have hshift := h.derivation.shift 1
    rw [List.map_append] at hshift
    obtain ⟨wanting, hw⟩ := hshift.run_front [0]
    change Reading.run ⟨[0], true⟩ (us.map (Token.shift 1) ++ [⟨.not, query.length⟩]) = _
    rw [Reading.run_append, hw]
    rfl
  obtain ⟨u, hu⟩ := compile_eq_tokens (c := c) hread (by simp [front]) s
  -- The clause that the dash was by itself is gone, and those in front of it are built as before.
  obtain ⟨u', hbuilt⟩ := h.builds u
  obtain ⟨ws, v, hws⟩ : ∃ ws v, Built c.clause u us ws v := by
    rw [Built, clauses_append] at hbuilt
    obtain ⟨ws, -, v, -, hws, -⟩ := runFrom_mapM_append_eq_ok.1 hbuilt
    exact ⟨ws, v, hws⟩
  have hclauses : clauses front = clauses us := by
    rw [← clauses_shift 1 us]
    simp [front, clauses]
  have hws : Built c.clause u front ws v := by rwa [Built, hclauses]
  have hfault : c.FirstFault u (front ++ [⟨.closeParen, query.length + 1⟩]) front.length :=
    firstFault_of_stuck hrun rfl hws
  have hat : (front ++ [⟨.closeParen, query.length + 1⟩])[front.length]? =
      some ⟨.closeParen, query.length + 1⟩ := by simp
  rw [hu]
  exact ((reportsLeftmost c u _).token hfault hat (fun _ hl ↦ by cases hl)).2

end Derives

/-- Queries compose in all states in which a compiler goes by one that has steady lookups. -/
theorem composes_of_steady {τ : Type} {c' : Compiler τ} {reached : τ → Prop}
    (hl : c.lookups.Steady)
    (hc : ∀ s, reached s →
      ∃ a, ∀ text, (runFrom s (c'.compile text)).1 = (runFrom a (c.compile text)).1) :
    c'.Composes reached := by
  have hin {s : τ} {q : String} {p : Predicate} (hs : reached s) (h : c'.Yields s q p) :
      ∃ ts vs, c.Derives q ts vs p := by
    obtain ⟨a, ha⟩ := hc s hs
    exact derives_of_yields hl ((ha (some q)).symm.trans h)
  have hout {t : τ} {q : String} {ts : List Token} {vs : List Predicate} {p : Predicate}
      (ht : reached t) (h : c.Derives q ts vs p) : c'.Yields t q p := by
    obtain ⟨a, ha⟩ := hc t ht
    exact (ha (some q)).trans (h.yields a)
  constructor
  case enclosed =>
    intro s t q p hs ht hy hd
    obtain ⟨ts, vs, h⟩ := hin hs hy
    exact hout ht (h.enclosed hd)
  case and =>
    intro s s' t q q' p p' hs hs' ht hy hd hy' hd'
    obtain ⟨ts, vs, h⟩ := hin hs hy
    obtain ⟨us, ws, h'⟩ := hin hs' hy'
    obtain ⟨_, hj⟩ := h.and hd h' hd'
    exact hout ht hj
  case next =>
    intro s s' t q q' p p' hs hs' ht hy hd hy' hd'
    obtain ⟨ts, vs, h⟩ := hin hs hy
    obtain ⟨us, ws, h'⟩ := hin hs' hy'
    obtain ⟨_, hj⟩ := h.next hd h' hd'
    exact hout ht hj
  case or =>
    intro s s' t q q' p p' hs hs' ht hy hd hy' hd'
    obtain ⟨ts, vs, h⟩ := hin hs hy
    obtain ⟨us, ws, h'⟩ := hin hs' hy'
    obtain ⟨_, hj⟩ := h.or hd h' hd'
    exact hout ht hj
  case not =>
    intro s t q p hs ht hy hd
    obtain ⟨ts, vs, h⟩ := hin hs hy
    have hf : Token.Spelled (Query.enclosed q) 0 ['N', 'O', 'T', ' '] [⟨.not, 0⟩] :=
      .lexeme (x := ['N', 'O', 'T']) (.not (Operand.endsWord_cons _ rfl)) (.blank rfl .nil)
    exact hout ht (h.negated hd hf (by simp [Query.enclosed, String.toList_append]))
  case minus =>
    intro s t q p hs ht hy hd
    obtain ⟨ts, vs, h⟩ := hin hs hy
    have hf : Token.Spelled (Query.enclosed q) 0 ['-'] [⟨.not, 0⟩] :=
      .single (.dash rfl)
    exact hout ht (h.negated hd hf (by simp [Query.enclosed, String.toList_append]))
  case dash =>
    intro s t q p hs ht hy hd
    obtain ⟨ts, vs, h⟩ := hin hs hy
    obtain ⟨a, ha⟩ := hc t ht
    rw [ha]
    exact h.dash hd a

end Compiler

theorem View.lookups_steady (v : View) (bound : Int) : (v.lookups bound).Steady :=
  ⟨fun _ _ _ ↦ rfl, fun _ _ _ ↦ rfl, fun _ _ _ ↦ rfl⟩

namespace Session

theorem composes_of_view {schema : Schema} {v : View} {reached : Session → Prop}
    (hr : ∀ s, reached s → s.Coherent ∧ s.view = v) : (compiler schema).Composes reached := by
  refine Compiler.composes_of_steady (c := v.compiler schema)
    (v.lookups_steady defaultSuggestions) ?_
  intro s hs
  obtain ⟨hs, rfl⟩ := hr s hs
  exact ⟨(), fun text ↦ (compile_eq hs text).1⟩

/-- Queries compose as units: with lookups that are steady, in all sessions over one directory in
memory, and in all sessions over a file that see the same in it. -/
theorem queries_compose :
    (∀ {σ : Type} (c : Compiler σ), c.lookups.Steady → c.Composes fun _ ↦ True) ∧
    (∀ (schema : Schema) (d : Directory), (compiler schema).Composes fun s ↦
      ∃ before, s = after schema (ofDirectory d) before) ∧
    ∀ (schema : Schema) (reader : Yaml.Reader) (files : FileTree) (path : Path) (v : View),
      (compiler schema).Composes fun s ↦
        (∃ before, s = after schema (ofPath reader files path schema) before) ∧ s.view = v := by
  refine ⟨fun c hl ↦ ?_, fun schema d ↦ ?_, fun schema reader files path v ↦ ?_⟩
  · exact Compiler.composes_of_steady hl fun s _ ↦ ⟨s, fun _ ↦ rfl⟩
  · refine composes_of_view (v := .ok d) ?_
    rintro s ⟨before, rfl⟩
    exact ⟨after_coherent (ofDirectory_coherent d) before, after_ofDirectory_view schema d before⟩
  · refine composes_of_view (v := v) ?_
    rintro s ⟨⟨before, rfl⟩, hv⟩
    exact ⟨after_coherent (ofPath_coherent reader files path schema) before, hv⟩

/-- A user and a group, and a term that is a dash. -/
theorem queries_compose_counting :
    let c : Compiler Nat := ⟨.v5, Compiler.countingLookups⟩
    let q := "member:ann"
    let q' := "subgroup:\"staff\""
    let r := "member:ann -"
    let p : Predicate := .leaf (.member 7)
    let p' : Predicate := .leaf (.subgroup "u1")
    c.lookups.Steady ∧ c.Yields 0 q p ∧ Token.endsInDash q = false ∧
      c.Yields 4 q' p' ∧ Token.endsInDash q' = false ∧
      c.Yields 2 ("(" ++ q ++ ") OR (" ++ q' ++ ")") (.any p [p']) ∧
      c.Yields 0 r (.all p [Compiler.term "-"]) ∧ Token.endsInDash r = true ∧
      (runFrom 2 (c.compile (some ("(" ++ r ++ ")")))).1 =
        .ok (.error ⟨.grammar, s!"Unexpected ')' at position {r.length + 1}"⟩) := by
  intro c q q' r p p'
  have hl : c.lookups.Steady := ⟨fun _ _ _ ↦ rfl, fun _ _ _ ↦ rfl, fun _ _ _ ↦ rfl⟩
  have hc : c.Composes fun _ ↦ True := queries_compose.1 c hl
  have hp : c.Yields 0 q p := by unfold Compiler.Yields; decide +kernel
  have hp' : c.Yields 4 q' p' := by unfold Compiler.Yields; decide +kernel
  have hd : Token.endsInDash q = false := by decide +kernel
  have hd' : Token.endsInDash q' = false := by decide +kernel
  have hr : c.Yields 0 r (.all p [Compiler.term "-"]) := by
    unfold Compiler.Yields
    decide +kernel
  have hr' : Token.endsInDash r = true := by decide +kernel
  exact ⟨hl, hp, hd, hp', hd', hc.or trivial trivial trivial hp hd hp' hd', hr, hr',
    hc.dash trivial trivial hr hr'⟩

end Session

end GroupSearch
