import GroupSearch.Outcome
import GroupSearch.Proofs.Delimited
import GroupSearch.Proofs.Writing

namespace GroupSearch

open Text

namespace Predicate

def isSpace (c : Char) : Bool := c == ' '

def line (depth : Nat) (body : List Char) : List Char :=
  '\n' :: (List.replicate (2 * depth) ' ' ++ body)

theorem line_cancel {depth : Nat} {body body' : List Char} :
    line depth body = line depth body' ↔ body = body' := by
  simp [line]

theorem endsWord_line (depth : Nat) (body : List Char) : Operand.EndsWord (line depth body) :=
  Operand.endsWord_cons _ rfl

theorem line_inj {depth depth' : Nat} {body body' : List Char} (hb : EndsRun isSpace body)
    (hb' : EndsRun isSpace body') (h : line depth body = line depth' body') :
    depth = depth' ∧ body = body' := by
  have hspace (n : Nat) : ∀ c ∈ List.replicate n ' ', isSpace c = true := by
    intro c hc
    rw [List.eq_of_mem_replicate hc]
    rfl
  obtain ⟨hspaces, hbody⟩ := run_append_inj (hspace _) (hspace _) hb hb' (List.cons.inj h).2
  have hlength := congrArg List.length hspaces
  rw [List.length_replicate, List.length_replicate] at hlength
  exact ⟨by omega, hbody⟩

/-- What follows an outline: a line that is no further in. -/
inductive Outside (depth : Nat) : List Char → Prop
  | intro {depth' : Nat} {body : List Char} : depth' ≤ depth → EndsRun isSpace body →
      Outside depth (line depth' body)

namespace Outside

variable {depth depth' : Nat} {r : List Char}

theorem endsWord (h : Outside depth r) : Operand.EndsWord r := by
  cases h
  exact endsWord_line _ _

theorem mono (h : Outside depth r) (hd : depth ≤ depth') : Outside depth' r := by
  cases h with
  | intro hle hbody => exact .intro (Nat.le_trans hle hd) hbody

theorem ne_line (h : Outside depth r) {body : List Char} (hb : EndsRun isSpace body) :
    r ≠ line (depth + 1) body := by
  cases h with
  | intro hle hbody =>
    intro he
    have hdepth := (line_inj hbody hb he).1
    omega

end Outside

def lines (ls : List String) : List Char := ls.flatMap fun l ↦ '\n' :: l.toList

theorem lines_cons (l : String) (ls : List String) :
    lines (l :: ls) = line 0 (l.toList ++ lines ls) := rfl

theorem lines_append (ls ls' : List String) : lines (ls ++ ls') = lines ls ++ lines ls' :=
  List.flatMap_append

theorem lines_indented (depth : Nat) (s : String) (ls : List String) (r : List Char) :
    lines (indented depth s :: ls) ++ r = line depth (s.toList ++ (lines ls ++ r)) := by
  simp [lines, indented, line, toList_pushn]

theorem lines_outlines_cons (depth : Nat) (p : Predicate) (ps : List Predicate) (r : List Char) :
    lines (outlines depth (p :: ps)) ++ r =
      lines (outline depth p) ++ (lines (outlines depth ps) ++ r) := by
  rw [outlines, lines_append, List.append_assoc]

theorem exists_line_eq {p : Predicate} (hp : ∀ a ∈ p.leaves, a.Known) (depth : Nat)
    (r : List Char) :
    ∃ body, lines (outline depth p) ++ r = line depth body ∧ EndsRun isSpace body := by
  cases p with
  | leaf a =>
    obtain ⟨c, cs, hcs, hletter, -⟩ := Atom.exists_expression_eq (hp a (List.mem_singleton.2 rfl))
    have hc : isSpace c = false :=
      beq_false_of_ne (Token.ne_of_isKeywordChar hletter ' ' (by decide))
    refine ⟨_, lines_indented .., ?_⟩
    rw [hcs]
    exact endsRun_cons _ hc
  | all p ps | any p ps | not p => exact ⟨_, lines_indented .., endsRun_cons _ rfl⟩

theorem outside_outlines {ps : List Predicate} (hp : ∀ a ∈ Formula.leavesAll ps, a.Known)
    {depth : Nat} {r : List Char} (hr : Outside depth r) :
    Outside (depth + 1) (lines (outlines (depth + 1) ps) ++ r) := by
  cases ps with
  | nil => exact hr.mono (Nat.le_succ depth)
  | cons p ps =>
    rw [Formula.leavesAll, List.forall_mem_append] at hp
    obtain ⟨body, he, hbody⟩ :=
      exists_line_eq hp.1 (depth + 1) (lines (outlines (depth + 1) ps) ++ r)
    rw [lines_outlines_cons, he]
    exact .intro (Nat.le_refl _) hbody

theorem outlines_cons_ne {p : Predicate} (hp : ∀ a ∈ p.leaves, a.Known) (ps : List Predicate)
    {depth : Nat} {r : List Char} (hr : Outside depth r) (s : List Char) :
    r ≠ lines (outlines (depth + 1) (p :: ps)) ++ s := by
  obtain ⟨body, he, hbody⟩ :=
    exists_line_eq hp (depth + 1) (lines (outlines (depth + 1) ps) ++ s)
  rw [lines_outlines_cons, he]
  exact hr.ne_line hbody

/-- The names of connectives start with a capital, and no leaf does. -/
theorem leaf_of_outline {a : Atom} (ha : a.Known) {p : Predicate} {depth : Nat} {r s : List Char}
    (h : lines (outline depth (.leaf a)) ++ r = lines (outline depth p) ++ s) :
    ∃ b, p = .leaf b := by
  cases p with
  | leaf b => exact ⟨b, rfl⟩
  | all | any | not =>
    rw [outline, outline, lines_indented, lines_indented, line_cancel] at h
    exact (Atom.expression_append_ne ha (.inr (by decide)) _ _ h).elim

mutual

/-- An outline tells the predicate from every other, and says where it ends. -/
theorem outline_append_inj (p q : Predicate) (hp : ∀ a ∈ p.leaves, a.Known)
    (hq : ∀ a ∈ q.leaves, a.Known) {depth : Nat} {r s : List Char} (hr : Outside depth r)
    (hs : Outside depth s)
    (h : lines (outline depth p) ++ r = lines (outline depth q) ++ s) : p = q ∧ r = s := by
  match p with
  | .leaf a =>
    have ha := hp a (List.mem_singleton.2 rfl)
    obtain ⟨b, rfl⟩ := leaf_of_outline ha h
    have hb := hq b (List.mem_singleton.2 rfl)
    rw [outline, outline, lines_indented, lines_indented, line_cancel] at h
    obtain ⟨rfl, hrest⟩ := Atom.expression_append_inj ha hb hr.endsWord hs.endsWord h
    exact ⟨rfl, hrest⟩
  | .all p ps =>
    cases q with
    | leaf b => exact nomatch leaf_of_outline (hq b (List.mem_singleton.2 rfl)) h.symm
    | any | not => simp [outline, lines_indented, line_cancel] at h
    | all q qs =>
      rw [outline, outline, lines_indented, lines_indented, line_cancel,
        List.append_cancel_left_eq] at h
      -- The first operand and the others are one list, which is as large as the predicate.
      obtain ⟨hps, hrest⟩ := outlines_append_inj (p :: ps) (q :: qs) hp hq hr hs h
      cases hps
      exact ⟨rfl, hrest⟩
  | .any p ps =>
    cases q with
    | leaf b => exact nomatch leaf_of_outline (hq b (List.mem_singleton.2 rfl)) h.symm
    | all | not => simp [outline, lines_indented, line_cancel] at h
    | any q qs =>
      rw [outline, outline, lines_indented, lines_indented, line_cancel,
        List.append_cancel_left_eq] at h
      obtain ⟨hps, hrest⟩ := outlines_append_inj (p :: ps) (q :: qs) hp hq hr hs h
      cases hps
      exact ⟨rfl, hrest⟩
  | .not p =>
    cases q with
    | leaf b => exact nomatch leaf_of_outline (hq b (List.mem_singleton.2 rfl)) h.symm
    | all | any => simp [outline, lines_indented, line_cancel] at h
    | not q =>
      rw [outline, outline, lines_indented, lines_indented, line_cancel,
        List.append_cancel_left_eq] at h
      obtain ⟨rfl, hrest⟩ := outline_append_inj p q hp hq (hr.mono (Nat.le_succ depth))
        (hs.mono (Nat.le_succ depth)) h
      exact ⟨rfl, hrest⟩
termination_by (sizeOf p, 1)

theorem outlines_append_inj (ps qs : List Predicate)
    (hp : ∀ a ∈ Formula.leavesAll ps, a.Known) (hq : ∀ a ∈ Formula.leavesAll qs, a.Known)
    {depth : Nat} {r s : List Char} (hr : Outside depth r) (hs : Outside depth s)
    (h : lines (outlines (depth + 1) ps) ++ r = lines (outlines (depth + 1) qs) ++ s) :
    ps = qs ∧ r = s := by
  match ps with
  | [] =>
    cases qs with
    | nil => exact ⟨rfl, h⟩
    | cons q qs =>
      rw [Formula.leavesAll, List.forall_mem_append] at hq
      exact (outlines_cons_ne hq.1 qs hr s h).elim
  | p :: ps =>
    rw [Formula.leavesAll, List.forall_mem_append] at hp
    cases qs with
    | nil => exact (outlines_cons_ne hp.1 ps hs r h.symm).elim
    | cons q qs =>
      rw [Formula.leavesAll, List.forall_mem_append] at hq
      rw [lines_outlines_cons, lines_outlines_cons] at h
      obtain ⟨rfl, hrest⟩ := outline_append_inj p q hp.1 hq.1 (outside_outlines hp.2 hr)
        (outside_outlines hq.2 hs) h
      obtain ⟨rfl, rfl⟩ := outlines_append_inj ps qs hp.2 hq.2 hr hs hrest
      exact ⟨rfl, rfl⟩
termination_by (sizeOf ps, 0)

end

end Predicate

namespace Outcome

/-- Failures, and predicates that ask for fields that there are. -/
def Known (o : Outcome) : Prop := ∀ p, o = .ok p → ∀ a ∈ p.leaves, a.Known

theorem toList_intercalate_cons (l : String) (ls : List String) :
    ("\n".intercalate (l :: ls)).toList = l.toList ++ Predicate.lines ls := by
  induction ls generalizing l with
  | nil => simp [Predicate.lines]
  | cons l' ls ih =>
    rw [String.intercalate_cons_cons, String.toList_append, String.toList_append, ih]
    simp [Predicate.lines]

theorem text_ok (p : Predicate) : ∃ limit, (text (.ok p)).toList = "Query: ".toList ++
    (p.expression.toList ++ Predicate.line 0 ("Tree:".toList ++
      (Predicate.lines (p.outline 1) ++ Predicate.line 0 ("Limit: ".toList ++ limit)))) := by
  obtain ⟨limit, hlimit⟩ : ∃ limit, text (.ok p) = "\n".intercalate
      (("Query: " ++ p.expression) :: "Tree:" :: (p.outline 1 ++ ["Limit: " ++ limit])) := ⟨_, rfl⟩
  refine ⟨limit.toList, ?_⟩
  rw [hlimit, toList_intercalate_cons, Predicate.lines_cons, Predicate.lines_append,
    Predicate.lines_cons]
  simp [Predicate.lines]

theorem text_error (f : Failure) : (text (.error f)).toList = "Error (".toList ++
    (f.kind.label.toList ++ ')' :: (": ".toList ++ f.message.toList)) := by
  change ("Error (" ++ f.kind.label ++ "): " ++ f.message).toList = _
  simp

theorem failure_inj {f f' : Failure} (h : text (.error f) = text (.error f')) : f = f' := by
  have hlabel (k : FailureKind) : ∀ c ∈ k.label.toList, (c != ')') = true := by
    cases k <;> simp [FailureKind.label]
  have hchars := congrArg String.toList h
  rw [text_error, text_error, List.append_cancel_left_eq] at hchars
  obtain ⟨hkind, hmessage⟩ :=
    run_append_inj (hlabel _) (hlabel _) (endsRun_cons _ rfl) (endsRun_cons _ rfl) hchars
  have hmessage : f.message.toList = f'.message.toList :=
    List.append_cancel_left (List.cons.inj hmessage).2
  cases f
  cases f'
  rw [Failure.mk.injEq]
  exact ⟨FailureKind.label_injective (String.toList_injective hkind),
    String.toList_injective hmessage⟩

theorem predicate_inj {p q : Predicate} (hp : ∀ a ∈ p.leaves, a.Known)
    (hq : ∀ a ∈ q.leaves, a.Known) (h : text (.ok p) = text (.ok q)) : p = q := by
  obtain ⟨limit, hlimit⟩ := text_ok p
  obtain ⟨limit', hlimit'⟩ := text_ok q
  have hchars := congrArg String.toList h
  rw [hlimit, hlimit', List.append_cancel_left_eq] at hchars
  have hrest := Predicate.rest_eq_of_expression p q hp hq (Predicate.endsWord_line _ _)
    (Predicate.endsWord_line _ _) hchars
  rw [Predicate.line_cancel, List.append_cancel_left_eq] at hrest
  have houtside (l : List Char) : Predicate.Outside 1 (Predicate.line 0 ("Limit: ".toList ++ l)) :=
    .intro (Nat.zero_le 1) (endsRun_cons _ rfl)
  exact (Predicate.outline_append_inj p q hp hq (houtside _) (houtside _) hrest).1

theorem text_error_ne_ok (f : Failure) (p : Predicate) : text (.error f) ≠ text (.ok p) := by
  obtain ⟨limit, hlimit⟩ := text_ok p
  intro h
  have hchars := congrArg String.toList h
  rw [text_error, hlimit] at hchars
  simp at hchars

/-- No two outcomes are shown by the same text, whatever is in their values and messages. -/
theorem text_eq_iff {o o' : Outcome} (ho : o.Known) (ho' : o'.Known) :
    o.text = o'.text ↔ o = o' := by
  constructor
  · intro h
    cases o with
    | error f =>
      cases o' with
      | error f' => rw [failure_inj h]
      | ok q => exact (text_error_ne_ok f q h).elim
    | ok p =>
      cases o' with
      | error f' => exact (text_error_ne_ok f' p h.symm).elim
      | ok q => rw [predicate_inj (ho p rfl) (ho' q rfl) h]
  · intro h
    rw [h]

/-- Connectives of one operand, with lines of an outline in its value. -/
theorem text_eq_iff_forged :
    let p : Predicate := .leaf (.field "name" "a)\nTree:\n  OR\n    name:b\nLimit: 1")
    text (.ok (.all p [])) ≠ text (.ok (.any p [])) := by
  intro p h
  have hname : "name" ∈ Atom.fieldNames := by decide
  have hall : Known (.ok (.all p [])) := by
    rintro _ ⟨⟩ a ha
    cases List.mem_singleton.1 ha
    exact hname
  have hany : Known (.ok (.any p [])) := by
    rintro _ ⟨⟩ a ha
    cases List.mem_singleton.1 ha
    exact hname
  cases (text_eq_iff hall hany).1 h

end Outcome

end GroupSearch
