import GroupSearch.Predicate.Basic
import GroupSearch.Proofs.Recognition
import GroupSearch.Proofs.Scanning

namespace GroupSearch

namespace Operand

theorem isPlain_of_all {cs : List Char} (h : cs ≠ [])
    (hcs : ∀ c ∈ cs, isWordChar c = true ∧ c ≠ ':') : isPlain cs = true := by
  cases cs with
  | nil => exact (h rfl).elim
  | cons c cs =>
    simp only [isPlain, List.isEmpty_cons, Bool.not_false, Bool.true_and, List.all_eq_true,
      Bool.and_eq_true, bne_iff_ne]
    exact hcs

theorem isWordChar_of_isDigit {c : Char} (h : c.isDigit = true) :
    isWordChar c = true ∧ c ≠ ':' := by
  have hn : 48 ≤ c.toNat ∧ c.toNat ≤ 57 := Char.isDigit_iff_toNat.1 h
  have hne (d : Char) (hd : d.toNat < 48 ∨ 57 < d.toNat) : c ≠ d := by
    rintro rfl
    omega
  have hb : Text.isBlank c = false := by
    simp only [Text.isBlank, Bool.or_eq_false_iff, Bool.and_eq_false_iff, decide_eq_false_iff_not,
      beq_eq_false_iff_ne]
    omega
  refine ⟨?_, hne ':' (.inr (by decide))⟩
  simp [isWordChar, hb, hne '(' (.inl (by decide)), hne ')' (.inl (by decide)),
    hne '"' (.inl (by decide))]

theorem isWordChar_of_mem_natural {n : Nat} {c : Char} (h : c ∈ (toString n).toList) :
    isWordChar c = true ∧ c ≠ ':' :=
  isWordChar_of_isDigit (Nat.isDigit_of_mem_toDigits (by decide) (by decide)
    (show c ∈ Nat.toDigits 10 n from Nat.toList_repr ▸ h))

theorem isPlain_natural (n : Nat) : isPlain (toString n).toList = true :=
  isPlain_of_all (by
    rw [show (toString n).toList = Nat.toDigits 10 n from Nat.toList_repr]
    exact Nat.toDigits_ne_nil) fun _ ↦ isWordChar_of_mem_natural

theorem isPlain_integer (n : Int) : isPlain (toString n).toList = true := by
  cases n with
  | ofNat n => exact isPlain_natural n
  | negSucc n =>
    rw [Text.toList_negSucc]
    refine isPlain_of_all nofun fun c hc ↦ ?_
    rcases List.mem_cons.1 hc with rfl | hc
    · exact ⟨rfl, by decide⟩
    · exact isWordChar_of_mem_natural hc

theorem quote_of_isPlain {s : String} (h : isPlain s.toList = true) : quote s = s := by
  rw [quote, encode_of_isPlain h, String.ofList_toList]

end Operand

namespace Atom

def keyword : Atom → String
  | field name _ => name
  | member _ => "member"
  | subgroup _ => "subgroup"
  | visibleToAll => "is"
  | limit _ => "limit"

def value : Atom → String
  | field _ value => value
  | member id => toString id
  | subgroup uuid => uuid
  | visibleToAll => "visibletoall"
  | limit cap => toString cap.count

def clause (a : Atom) : Clause := .operator a.keyword a.value

theorem expression_eq (a : Atom) : a.expression = a.keyword ++ ":" ++ Operand.quote a.value := by
  cases a with
  | field name value => rfl
  | member id =>
    rw [value, Operand.quote_of_isPlain (Operand.isPlain_integer id)]
    rfl
  | subgroup uuid => rfl
  | visibleToAll => rfl
  | limit cap =>
    rw [value, Operand.quote_of_isPlain (Operand.isPlain_natural cap.count)]
    rfl

/-- Atoms whose operator is read as it is written. -/
def Writable (a : Atom) : Prop := Token.IsKeyword a.keyword.toList

def fieldNames : List String := ["uuid", "name", "inname", "description"]

theorem isKeyword_of_mem : ∀ k ∈ fieldNames ++ ["member", "subgroup", "is", "limit"],
    Token.IsKeyword k.toList := by
  intro k hk
  have h := List.all_eq_true.1 (show (fieldNames ++ ["member", "subgroup", "is", "limit"]).all
    (fun k ↦ !k.toList.isEmpty && k.toList.all fun c ↦ Token.isKeywordChar c && c.toLower == c) =
      true from rfl) k hk
  simp only [Bool.and_eq_true, Bool.not_eq_true', List.isEmpty_eq_false_iff, List.all_eq_true,
    beq_iff_eq] at h
  exact ⟨h.1, fun c hc ↦ (h.2 c hc).1, fun c hc ↦ (h.2 c hc).2⟩

theorem writable_of_fieldNames {a : Atom}
    (h : ∀ name value, a = .field name value → name ∈ fieldNames) : a.Writable := by
  refine isKeyword_of_mem _ ?_
  cases a with
  | field name value => exact List.mem_append_left _ (h name value rfl)
  | member | subgroup | visibleToAll | limit => simp [keyword]

theorem scans_expression {a : Atom} (h : a.Writable) {rest : List Char}
    (hr : Operand.EndsWord rest) :
    Token.Scans (a.expression.toList ++ rest) [.clause a.clause] rest := by
  have hs := Token.Scans.operator (v := a.value.toList) h hr
  rw [String.ofList_toList, String.ofList_toList] at hs
  rw [expression_eq, Operand.quote]
  simpa [clause] using hs

end Atom

namespace Formula

variable {α : Type}

mutual

def collapse : Formula α → Formula α
  | leaf a => leaf a
  | all p ps => conj (collapse p) (collapseAll ps)
  | any p ps => disj (collapse p) (collapseAll ps)
  | not p => not (collapse p)

def collapseAll : List (Formula α) → List (Formula α)
  | [] => []
  | p :: ps => collapse p :: collapseAll ps

end

end Formula

namespace Predicate

mutual

def lexemes : Predicate → List Lexeme
  | .leaf a => [.clause a.clause]
  | .all p ps => .openParen :: (lexemes p ++ (lexemesAll .and ps ++ [.closeParen]))
  | .any p ps => .openParen :: (lexemes p ++ (lexemesAll .or ps ++ [.closeParen]))
  | .not p => .not :: lexemes p

def lexemesAll (separator : Lexeme) : List Predicate → List Lexeme
  | [] => []
  | p :: ps => separator :: (lexemes p ++ lexemesAll separator ps)

end

theorem endsWord_expressions {separator : String} {cs rest : List Char}
    (hs : separator.toList = ' ' :: cs) (ps : List Predicate) (hr : Operand.EndsWord rest) :
    Operand.EndsWord ((expressions separator ps).toList ++ rest) := by
  cases ps with
  | nil => simpa [expressions] using hr
  | cons p ps =>
    simp only [expressions, String.toList_append, hs, List.cons_append]
    exact Operand.endsWord_cons _ rfl

theorem negates_expression (p : Predicate) (h : ∀ a ∈ p.leaves, a.Writable) (rest : List Char) :
    Token.negates (p.expression.toList ++ rest) = true := by
  cases p with
  | leaf a =>
    have ha := h a (List.mem_singleton.2 rfl)
    rw [expression, Atom.expression_eq]
    cases hk : a.keyword.toList with
    | nil => exact (ha.ne_nil hk).elim
    | cons c k =>
      have hc := Token.not_isBlank_of_isKeywordChar (ha.letters c (hk ▸ List.mem_cons_self))
      simp [hk, Token.negates, hc]
  | all p ps | any p ps => simp [expression, Token.negates, Text.isBlank]
  | not p => simp [expression, Token.negates, Text.isBlank]

theorem toList_and : " AND ".toList = ' ' :: "AND ".toList := rfl

theorem toList_or : " OR ".toList = ' ' :: "OR ".toList := rfl

theorem scans_and (cs : List Char) : Token.Scans (" AND ".toList ++ cs) [.and] cs :=
  .blank rfl ((Token.Scans.and (Operand.endsWord_cons cs rfl)).trans (.blank rfl (.refl cs)))

theorem scans_or (cs : List Char) : Token.Scans (" OR ".toList ++ cs) [.or] cs :=
  .blank rfl ((Token.Scans.or (Operand.endsWord_cons cs rfl)).trans (.blank rfl (.refl cs)))

mutual

theorem scans_expression (p : Predicate) (h : ∀ a ∈ p.leaves, a.Writable) {rest : List Char}
    (hr : Operand.EndsWord rest) : Token.Scans (p.expression.toList ++ rest) p.lexemes rest := by
  match p with
  | .leaf a => exact a.scans_expression (h a (List.mem_singleton.2 rfl)) hr
  | .all p ps =>
    rw [Formula.leaves, List.forall_mem_append] at h
    have hc : Operand.EndsWord (')' :: rest) := Operand.endsWord_cons rest rfl
    have hp := scans_expression p h.1 (endsWord_expressions toList_and ps hc)
    have hps := scans_expressions ps h.2 toList_and scans_and hc
    have ht := (Token.Scans.openParen _).trans (hp.trans (hps.trans (.closeParen rest)))
    simpa [expression, lexemes] using ht
  | .any p ps =>
    rw [Formula.leaves, List.forall_mem_append] at h
    have hc : Operand.EndsWord (')' :: rest) := Operand.endsWord_cons rest rfl
    have hp := scans_expression p h.1 (endsWord_expressions toList_or ps hc)
    have hps := scans_expressions ps h.2 toList_or scans_or hc
    have ht := (Token.Scans.openParen _).trans (hp.trans (hps.trans (.closeParen rest)))
    simpa [expression, lexemes] using ht
  | .not p =>
    have ht := (Token.Scans.dash (negates_expression p h rest)).trans (scans_expression p h hr)
    simpa [expression, lexemes] using ht

theorem scans_expressions (ps : List Predicate) (h : ∀ a ∈ Formula.leavesAll ps, a.Writable)
    {separator : String} {l : Lexeme} {cs rest : List Char} (hs : separator.toList = ' ' :: cs)
    (hl : ∀ cs', Token.Scans (separator.toList ++ cs') [l] cs') (hr : Operand.EndsWord rest) :
    Token.Scans ((expressions separator ps).toList ++ rest) (lexemesAll l ps) rest := by
  match ps with
  | [] => exact .refl rest
  | p :: ps =>
    rw [Formula.leavesAll, List.forall_mem_append] at h
    have hp := scans_expression p h.1 (endsWord_expressions hs ps hr)
    have hps := scans_expressions ps h.2 hs hl hr
    have ht := (hl _).trans (hp.trans hps)
    simpa [expressions, lexemesAll] using ht

end

theorem cons_of_lexemes {ts : List Token} {l : Lexeme} {ls : List Lexeme}
    (h : ts.map Token.lexeme = l :: ls) : ∃ i us, ts = ⟨l, i⟩ :: us ∧ us.map Token.lexeme = ls := by
  obtain ⟨⟨l', i⟩, us, rfl, rfl, hus⟩ := List.map_eq_cons_iff.1 h
  exact ⟨i, us, rfl, hus⟩

theorem group_of_lexemes {ts : List Token} {ls ls' : List Lexeme}
    (h : ts.map Token.lexeme = .openParen :: (ls ++ (ls' ++ [.closeParen]))) :
    ∃ i j us ws, ts = ⟨.openParen, i⟩ :: ((us ++ ws) ++ [⟨.closeParen, j⟩]) ∧
      us.map Token.lexeme = ls ∧ ws.map Token.lexeme = ls' := by
  obtain ⟨i, ts, rfl, hts⟩ := cons_of_lexemes h
  obtain ⟨us, vs, rfl, hus, hvs⟩ := List.map_eq_append_iff.1 hts
  obtain ⟨ws, vs, rfl, hws, hvs⟩ := List.map_eq_append_iff.1 hvs
  obtain ⟨j, vs, rfl, hnil⟩ := cons_of_lexemes hvs
  obtain rfl := List.map_eq_nil_iff.1 hnil
  exact ⟨i, j, us, ws, by rw [List.append_assoc], hus, hws⟩

mutual

/-- The grammar derives the predicate from what it is written in, up to single operands. -/
theorem derivation (p : Predicate) {ts : List Token} (h : ts.map Token.lexeme = p.lexemes) :
    Query.clauses ts = p.leaves.map Atom.clause ∧
      Grammar.Negation ts (p.leaves.map Formula.leaf) p.collapse := by
  match p with
  | .leaf a =>
    obtain ⟨i, us, rfl, hus⟩ := cons_of_lexemes h
    obtain rfl := List.map_eq_nil_iff.1 hus
    exact ⟨rfl, .primary .clause⟩
  | .all p ps =>
    obtain ⟨i, j, us, ws, rfl, hus, hws⟩ := group_of_lexemes h
    obtain ⟨hc, hd⟩ := derivation p hus
    obtain ⟨hcs, hds⟩ := derivation_conjuncts ps hws
    rw [Query.clauses_group, Query.clauses_append, hc, hcs, Formula.leaves, List.map_append,
      List.map_append]
    exact ⟨rfl, .primary (.group (.single (.conj hd hds)))⟩
  | .any p ps =>
    obtain ⟨i, j, us, ws, rfl, hus, hws⟩ := group_of_lexemes h
    obtain ⟨hc, hd⟩ := derivation p hus
    obtain ⟨hcs, hds⟩ := derivation_disjuncts ps hws
    rw [Query.clauses_group, Query.clauses_append, hc, hcs, Formula.leaves, List.map_append,
      List.map_append]
    exact ⟨rfl, .primary (.group (.disj (.single hd) hds))⟩
  | .not p =>
    obtain ⟨i, us, rfl, hus⟩ := cons_of_lexemes h
    obtain ⟨hc, hd⟩ := derivation p hus
    exact ⟨hc, .not hd⟩

theorem derivation_conjuncts (ps : List Predicate) {ts : List Token}
    (h : ts.map Token.lexeme = lexemesAll .and ps) :
    Query.clauses ts = (Formula.leavesAll ps).map Atom.clause ∧
      Grammar.Conjuncts ts ((Formula.leavesAll ps).map Formula.leaf) (Formula.collapseAll ps) := by
  match ps with
  | [] =>
    obtain rfl := List.map_eq_nil_iff.1 h
    exact ⟨rfl, .nil⟩
  | p :: ps =>
    obtain ⟨i, vs, rfl, hvs⟩ := cons_of_lexemes h
    obtain ⟨us, ws, rfl, hus, hws⟩ := List.map_eq_append_iff.1 hvs
    obtain ⟨hc, hd⟩ := derivation p hus
    obtain ⟨hcs, hds⟩ := derivation_conjuncts ps hws
    rw [Formula.leavesAll, List.map_append, List.map_append, ← hc, ← hcs]
    exact ⟨Query.clauses_append us ws, .and hd hds⟩

theorem derivation_disjuncts (ps : List Predicate) {ts : List Token}
    (h : ts.map Token.lexeme = lexemesAll .or ps) :
    Query.clauses ts = (Formula.leavesAll ps).map Atom.clause ∧
      Grammar.Disjuncts ts ((Formula.leavesAll ps).map Formula.leaf) (Formula.collapseAll ps) := by
  match ps with
  | [] =>
    obtain rfl := List.map_eq_nil_iff.1 h
    exact ⟨rfl, .nil⟩
  | p :: ps =>
    obtain ⟨i, vs, rfl, hvs⟩ := cons_of_lexemes h
    obtain ⟨us, ws, rfl, hus, hws⟩ := List.map_eq_append_iff.1 hvs
    obtain ⟨hc, hd⟩ := derivation p hus
    obtain ⟨hcs, hds⟩ := derivation_disjuncts ps hws
    rw [Formula.leavesAll, List.map_append, List.map_append, ← hc, ← hcs]
    exact ⟨Query.clauses_append us ws, .cons (.single hd) hds⟩

end

end Predicate

namespace Compiler

variable {σ : Type} (c : Compiler σ)

/-- The atom's clause compiles to the atom, whatever was looked up before. -/
def Rebuilds (a : Atom) : Prop :=
  ∀ s, ∃ t, runFrom s (c.clause a.clause) = (.ok (.leaf a), t)

theorem mapM_of_rebuilds {as : List Atom} (h : ∀ a ∈ as, c.Rebuilds a) (s : σ) :
    ∃ t, runFrom s ((as.map Atom.clause).mapM c.clause) = (.ok (as.map Formula.leaf), t) := by
  induction as generalizing s with
  | nil => exact ⟨s, rfl⟩
  | cons a as ih =>
    rw [List.forall_mem_cons] at h
    obtain ⟨t, ht⟩ := h.1 s
    obtain ⟨u, hu⟩ := ih h.2 t
    exact ⟨u, runFrom_mapM_cons_eq_ok.2 ⟨_, _, t, rfl, ht, hu⟩⟩

/-- A written predicate compiles to itself, up to single operands. -/
theorem query_expression (p : Predicate) (hw : ∀ a ∈ p.leaves, a.Writable)
    (h : ∀ a ∈ p.leaves, c.Rebuilds a) (s : σ) :
    ∃ t, runFrom s (c.query (some p.expression)) = (.ok p.collapse, t) := by
  have hs := p.scans_expression hw Operand.endsWord_nil
  rw [List.append_nil] at hs
  obtain ⟨ts, hts, hr⟩ := hs.read 0
  obtain ⟨hc, hd⟩ := p.derivation hts
  obtain ⟨t, ht⟩ := c.mapM_of_rebuilds h s
  rw [← hc] at ht
  refine ⟨t, ?_⟩
  have hread : Token.read p.expression = .ok ts := hr
  unfold query
  rw [Option.getD_some, hread]
  cases ts with
  | nil => cases p <;> cases hts
  | cons u us => exact c.tokens_of_derivation (.single (.single hd)) ht

end Compiler

end GroupSearch
