import GroupSearch.Proofs.Rendering

namespace GroupSearch

open Text

namespace Token

theorem Spelling.append_inj {l l' : Lexeme} {x x' r r' : List Char} (h : Spelling l x r)
    (h' : Spelling l' x' r') (he : x ++ r = x' ++ r') : l = l' ∧ r = r' := by
  obtain ⟨c, w, rfl, -, hw⟩ := h.read
  obtain ⟨c', w', rfl, -, hw'⟩ := h'.read
  obtain rfl : c = c' := (List.cons.inj he).1
  have hrest : w ++ r = w' ++ r' := (List.cons.inj he).2
  have hread := hw 0
  rw [hrest, hw' 0] at hread
  cases hread
  exact ⟨rfl, rfl⟩

end Token

namespace Atom

def Known : Atom → Prop
  | field name _ => name ∈ fieldNames
  | member _ | subgroup _ | visibleToAll | limit _ => True

theorem Known.writable {a : Atom} (h : a.Known) : a.Writable := by
  refine writable_of_fieldNames fun name value ha ↦ ?_
  subst ha
  exact h

def ofOperator? : String → String → Option Atom
  | "member", v => (integer? v.toList).map member
  | "subgroup", v => some (subgroup v)
  | "is", _ => some visibleToAll
  | "limit", v => (natural? v.toList).bind fun n ↦ (Limit.ofInt? n).map limit
  | name, v => some (field name v)

theorem Known.ofOperator?_eq {a : Atom} (h : a.Known) :
    ofOperator? a.keyword a.value = some a := by
  cases a with
  | field name v =>
    simp only [Known, fieldNames, List.mem_cons, List.not_mem_nil, or_false] at h
    obtain rfl | rfl | rfl | rfl := h <;> rfl
  | member id => simp only [ofOperator?, keyword, value, integer?_integer, Option.map_some]
  | subgroup uuid => rfl
  | visibleToAll => rfl
  | limit cap =>
    simp only [ofOperator?, keyword, value, natural?_toString, Option.bind_some, Limit.ofInt?,
      Int.toNat_natCast, dif_pos cap.positive, Option.map_some]

theorem Known.eq_of_clause {a b : Atom} (ha : a.Known) (hb : b.Known) (h : a.clause = b.clause) :
    a = b := by
  obtain ⟨hkeyword, hvalue⟩ := Clause.operator.inj h
  have heq := ha.ofOperator?_eq
  rw [hkeyword, hvalue, hb.ofOperator?_eq] at heq
  exact (Option.some.inj heq).symm

theorem spelling {a : Atom} (h : a.Writable) {r : List Char} (hr : Operand.EndsWord r) :
    Token.Spelling (.clause a.clause) a.expression.toList r := by
  have hs := Token.IsKeyword.spelling (v := a.value.toList) h hr
  rw [String.ofList_toList, String.ofList_toList] at hs
  rw [expression_eq, Operand.quote]
  simpa [clause] using hs

/-- A written atom tells the atom from every other, and says where it ends. -/
theorem expression_append_inj {a b : Atom} (ha : a.Known) (hb : b.Known) {r s : List Char}
    (hr : Operand.EndsWord r) (hs : Operand.EndsWord s)
    (h : a.expression.toList ++ r = b.expression.toList ++ s) : a = b ∧ r = s := by
  obtain ⟨hclause, hrest⟩ := (spelling ha.writable hr).append_inj (spelling hb.writable hs) h
  exact ⟨ha.eq_of_clause hb (Lexeme.clause.inj hclause), hrest⟩

theorem exists_expression_eq {a : Atom} (h : a.Known) :
    ∃ c cs, a.expression.toList = c :: cs ∧ Token.isKeywordChar c = true ∧ c.toLower = c := by
  have hk : Token.IsKeyword a.keyword.toList := h.writable
  rw [expression_eq]
  cases hcs : a.keyword.toList with
  | nil => exact (hk.ne_nil hcs).elim
  | cons c cs =>
    have hc : c ∈ a.keyword.toList := hcs ▸ List.mem_cons_self
    refine ⟨c, cs ++ ':' :: (Operand.quote a.value).toList, ?_, hk.letters c hc, hk.lower c hc⟩
    simp [hcs]

theorem expression_append_ne {a : Atom} (h : a.Known) {c : Char}
    (hc : Token.isKeywordChar c = false ∨ c.toLower ≠ c) (r s : List Char) :
    a.expression.toList ++ r ≠ c :: s := by
  obtain ⟨d, cs, hd, hletter, hlower⟩ := exists_expression_eq h
  rw [hd]
  intro he
  obtain rfl : d = c := (List.cons.inj he).1
  rcases hc with hc | hc
  · cases hletter.symm.trans hc
  · exact hc hlower

end Atom

namespace Predicate

def IsSeparator (s : String) : Prop := s = " AND " ∨ s = " OR "

variable {separator separator' : String}

theorem IsSeparator.append_inj {r s : List Char} (h : IsSeparator separator)
    (h' : IsSeparator separator') (he : separator.toList ++ r = separator'.toList ++ s) :
    r = s := by
  rcases h with rfl | rfl <;> rcases h' with rfl | rfl
  · exact List.append_cancel_left he
  · simp at he
  · simp at he
  · exact List.append_cancel_left he

theorem IsSeparator.exists_eq (h : IsSeparator separator) : ∃ cs, separator.toList = ' ' :: cs := by
  rcases h with rfl | rfl
  · exact ⟨_, toList_and⟩
  · exact ⟨_, toList_or⟩

theorem endsWord_operands (h : IsSeparator separator) (ps : List Predicate) (r : List Char) :
    Operand.EndsWord ((expressions separator ps).toList ++ ')' :: r) := by
  obtain ⟨cs, hcs⟩ := h.exists_eq
  exact endsWord_expressions hcs ps (Operand.endsWord_cons r rfl)

theorem toList_group (separator : String) (p : Predicate) (ps : List Predicate) (r : List Char) :
    ("(" ++ expression p ++ expressions separator ps ++ ")").toList ++ r =
      '(' :: (p.expression.toList ++ ((expressions separator ps).toList ++ ')' :: r)) := by
  simp

theorem toList_expressions_cons (separator : String) (p : Predicate) (ps : List Predicate)
    (r : List Char) :
    (expressions separator (p :: ps)).toList ++ r = separator.toList ++
      (p.expression.toList ++ ((expressions separator ps).toList ++ r)) := by
  simp [expressions]

theorem expressions_cons_ne (h : IsSeparator separator) (p : Predicate) (ps : List Predicate)
    (r s : List Char) : (expressions separator (p :: ps)).toList ++ r ≠ ')' :: s := by
  obtain ⟨cs, hcs⟩ := h.exists_eq
  rw [toList_expressions_cons, hcs]
  intro he
  cases (List.cons.inj he).1

theorem leaf_of_expression {a : Atom} (ha : a.Known) {p : Predicate} {r s : List Char}
    (h : (expression (.leaf a)).toList ++ r = p.expression.toList ++ s) : ∃ b, p = .leaf b := by
  cases p with
  | leaf b => exact ⟨b, rfl⟩
  | all p ps | any p ps =>
    rw [expression, expression, toList_group] at h
    exact (Atom.expression_append_ne ha (.inl rfl) r _ h).elim
  | not p =>
    rw [expression, expression, String.toList_append] at h
    exact (Atom.expression_append_ne ha (.inl rfl) r _ h).elim

mutual

/-- A written predicate says where it ends. -/
theorem rest_eq_of_expression (p q : Predicate) (hp : ∀ a ∈ p.leaves, a.Known)
    (hq : ∀ a ∈ q.leaves, a.Known) {r s : List Char} (hr : Operand.EndsWord r)
    (hs : Operand.EndsWord s) (h : p.expression.toList ++ r = q.expression.toList ++ s) :
    r = s := by
  match p with
  | .leaf a =>
    have ha := hp a (List.mem_singleton.2 rfl)
    obtain ⟨b, rfl⟩ := leaf_of_expression ha h
    exact (Atom.expression_append_inj ha (hq b (List.mem_singleton.2 rfl)) hr hs h).2
  | .all p ps | .any p ps =>
    cases q with
    | leaf b => exact nomatch leaf_of_expression (hq b (List.mem_singleton.2 rfl)) h.symm
    | not q => simp [expression] at h
    | all q qs | any q qs =>
      simp only [Formula.leaves, List.forall_mem_append] at hp hq
      rw [expression, expression, toList_group, toList_group, List.cons.injEq] at h
      have hrest := rest_eq_of_expression p q hp.1 hq.1
        (endsWord_operands (by simp [IsSeparator]) ps r)
        (endsWord_operands (by simp [IsSeparator]) qs s) h.2
      exact rest_eq_of_expressions ps qs hp.2 hq.2 (by simp [IsSeparator]) (by simp [IsSeparator])
        hrest
  | .not p =>
    cases q with
    | leaf b => exact nomatch leaf_of_expression (hq b (List.mem_singleton.2 rfl)) h.symm
    | all q qs | any q qs => simp [expression] at h
    | not q =>
      rw [expression, expression, String.toList_append, String.toList_append, List.append_assoc,
        List.append_assoc, List.append_cancel_left_eq] at h
      exact rest_eq_of_expression p q hp hq hr hs h

theorem rest_eq_of_expressions (ps qs : List Predicate)
    (hp : ∀ a ∈ Formula.leavesAll ps, a.Known) (hq : ∀ a ∈ Formula.leavesAll qs, a.Known)
    {separator separator' : String} (hsep : IsSeparator separator)
    (hsep' : IsSeparator separator') {r s : List Char}
    (h : (expressions separator ps).toList ++ ')' :: r =
      (expressions separator' qs).toList ++ ')' :: s) : r = s := by
  match ps with
  | [] =>
    cases qs with
    | nil => exact (List.cons.inj h).2
    | cons q qs => exact (expressions_cons_ne hsep' q qs _ _ h.symm).elim
  | p :: ps =>
    cases qs with
    | nil => exact (expressions_cons_ne hsep p ps _ _ h).elim
    | cons q qs =>
      rw [Formula.leavesAll, List.forall_mem_append] at hp hq
      rw [toList_expressions_cons, toList_expressions_cons] at h
      have hrest := rest_eq_of_expression p q hp.1 hq.1 (endsWord_operands hsep ps r)
        (endsWord_operands hsep' qs s) (hsep.append_inj hsep' h)
      exact rest_eq_of_expressions ps qs hp.2 hq.2 hsep hsep' hrest

end

end Predicate

end GroupSearch
