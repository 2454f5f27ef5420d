import GroupSearch.Proofs.Spelling

namespace GroupSearch

namespace Token

open Operand

/-- Every character of the word belongs to it, and the text behind cannot go on with it. -/
structure IsWord (w r : List Char) : Prop where
  chars : ∀ c ∈ w, isWordChar c = true
  ends : EndsWord r

/-- A word that is not read for anything but itself: it is neither a connective, nor a keyword with
its value, nor does it start with a dash in front of something. -/
structure IsTerm (w r : List Char) : Prop where
  ne_nil : w ≠ []
  ne_and : w ≠ ['A', 'N', 'D']
  ne_or : w ≠ ['O', 'R']
  ne_not : w ≠ ['N', 'O', 'T']
  ne_name : ∀ k v, IsName k → w ≠ k ++ ':' :: v
  dash : w.head? = some '-' → w = ['-'] ∧ ∀ c ∈ r.head?, Text.isBlank c = true

/-- Where `r` follows, the text denotes the lexeme. -/
inductive Denotes (r : List Char) : List Char → Lexeme → Prop
  | openParen : Denotes r ['('] .openParen
  | closeParen : Denotes r [')'] .closeParen
  | dash {c : Char} : c ∈ r.head? → Text.isBlank c = false → Denotes r ['-'] .not
  | quoted {w v : List Char} :
      Quotes w v → Denotes r ('"' :: w) (.clause (.term (String.ofList v)))
  | value {k v : List Char} : IsName k → IsWord v r →
      (v = [] → r.head? ≠ some '"' ∧ r.head? ≠ some '(') →
      Denotes r (k ++ ':' :: v)
        (.clause (.operator (String.ofList (k.map Char.toLower)) (String.ofList v)))
  | quotedValue {k w v : List Char} : IsName k → Quotes w v →
      Denotes r (k ++ ':' :: '"' :: w)
        (.clause (.operator (String.ofList (k.map Char.toLower)) (String.ofList v)))
  | and : EndsWord r → Denotes r ['A', 'N', 'D'] .and
  | or : EndsWord r → Denotes r ['O', 'R'] .or
  | not : EndsWord r → Denotes r ['N', 'O', 'T'] .not
  | term {w : List Char} : IsWord w r → IsTerm w r →
      Denotes r w (.clause (.term (String.ofList w)))

theorem negates_eq_true_iff {r : List Char} :
    negates r = true ↔ ∃ c ∈ r.head?, Text.isBlank c = false := by
  cases r <;> simp [negates]

theorem negates_eq_false_iff {r : List Char} :
    negates r = false ↔ ∀ c ∈ r.head?, Text.isBlank c = true := by
  cases r <;> simp [negates]

theorem splitKeyword_eq_none_iff {w : List Char} :
    splitKeyword w = none ↔ ∀ k v, IsName k → w ≠ k ++ ':' :: v := by
  constructor
  · rintro h k v hk rfl
    cases h.symm.trans (hk.splitKeyword v)
  · intro h
    cases hs : splitKeyword w with
    | none => rfl
    | some p =>
      obtain ⟨k, hk, -, hw⟩ := isName_of_splitKeyword hs
      exact (h k p.2 hk hw).elim

theorem denotes_ofWord {w r : List Char} (hw : IsWord w r) (hne : w ≠ [])
    (hd : w.head? ≠ some '-') (hs : splitKeyword w = none) : Denotes r w (ofWord w) := by
  unfold ofWord
  split
  case isTrue h => exact h ▸ .and hw.ends
  split
  case isTrue h => exact h ▸ .or hw.ends
  split
  case isTrue h => exact h ▸ .not hw.ends
  case isFalse hand hor hnot =>
    exact .term hw ⟨hne, hand, hor, hnot, splitKeyword_eq_none_iff.1 hs, fun h ↦ (hd h).elim⟩

theorem ofWord_of_isTerm {w r : List Char} (h : IsTerm w r) :
    ofWord w = .clause (.term (String.ofList w)) := by
  rw [ofWord, if_neg h.ne_and, if_neg h.ne_or, if_neg h.ne_not]

theorem Spelling.denotes {l : Lexeme} {x r : List Char} (h : Spelling l x r) : Denotes r x l := by
  cases h with
  | openParen => exact .openParen
  | closeParen => exact .closeParen
  | dash hn =>
    obtain ⟨c, hc, hb⟩ := negates_eq_true_iff.1 hn
    exact .dash hc hb
  | loneDash hn =>
    have hs : ∀ k v, IsName k → ['-'] ≠ k ++ ':' :: v := splitKeyword_eq_none_iff.1 rfl
    exact .term ⟨List.forall_mem_singleton.2 rfl, endsWord_of_negates hn⟩
      ⟨nofun, nofun, nofun, nofun, hs, fun _ ↦ ⟨rfl, negates_eq_false_iff.1 hn⟩⟩
  | quoted hw => exact .quoted hw
  | value hk hne hv hr => exact .value hk ⟨hv, hr⟩ fun h ↦ (hne h).elim
  | quotedValue hk hw => exact .quotedValue hk hw
  | noValue hk hr hq hp => exact .value hk ⟨nofun, hr⟩ fun _ ↦ ⟨hq, hp⟩
  | word hne hw hd hs hr => exact denotes_ofWord ⟨hw, hr⟩ hne hd hs

theorem Denotes.spelling {l : Lexeme} {x r : List Char} (h : Denotes r x l) : Spelling l x r := by
  cases h with
  | openParen => exact .openParen
  | closeParen => exact .closeParen
  | dash hc hb => exact .dash (negates_eq_true_iff.2 ⟨_, hc, hb⟩)
  | quoted hw => exact .quoted hw
  | @value k v hk hv hn =>
    cases v with
    | nil => exact .noValue hk hv.ends (hn rfl).1 (hn rfl).2
    | cons c v => exact .value hk nofun hv.chars hv.ends
  | quotedValue hk hw => exact .quotedValue hk hw
  | and hr => exact .and hr
  | or hr => exact .or hr
  | not hr => exact .not hr
  | term hw ht =>
    by_cases hd : x.head? = some '-'
    · obtain ⟨rfl, hr⟩ := ht.dash hd
      exact .loneDash (negates_eq_false_iff.2 hr)
    · rw [← ofWord_of_isTerm ht]
      exact .word ht.ne_nil hw.chars hd (splitKeyword_eq_none_iff.2 ht.ne_name) hw.ends

namespace Spelled

variable {rest : List Char} {i : Nat} {cs : List Char} {ts : List Token}

theorem le_position (h : Spelled rest i cs ts) : ∀ t ∈ ts, i ≤ t.position := by
  induction h with
  | nil => nofun
  | blank _ _ ih => exact fun t ht ↦ Nat.le_of_succ_le (ih t ht)
  | lexeme _ _ ih =>
    refine List.forall_mem_cons.2 ⟨Nat.le_refl _, fun t ht ↦ ?_⟩
    have := ih t ht
    omega

theorem positions_increase (h : Spelled rest i cs ts) :
    ts.Pairwise fun t u ↦ t.position < u.position := by
  induction h with
  | nil => exact .nil
  | blank _ _ ih => exact ih
  | @lexeme i x cs l ts hx h ih =>
    refine .cons (fun u hu ↦ ?_) ih
    have hpos : 0 < x.length := List.length_pos_iff.2 hx.ne_nil
    have := h.le_position u hu
    dsimp only
    omega

theorem blanks {gap : List Char} (hg : ∀ c ∈ gap, Text.isBlank c = true)
    (h : Spelled rest (i + gap.length) cs ts) : Spelled rest i (gap ++ cs) ts := by
  induction gap generalizing i with
  | nil => exact h
  | cons c gap ih =>
    obtain ⟨hc, hg⟩ := List.forall_mem_cons.1 hg
    refine .blank hc (ih hg ?_)
    rwa [Nat.add_right_comm, Nat.add_assoc]

end Spelled

/-- A lexeme as it stands in a text, with the token it denotes and the blanks behind it. -/
structure Stretch where
  token : Token
  text : List Char
  gap : List Char

def spread (ss : List Stretch) : List Char := ss.flatMap fun s ↦ s.text ++ s.gap

/-- The stretch stands at the position of its token, in front of the text `r`. -/
structure Stretch.Stands (s : Stretch) (position : Nat) (r : List Char) : Prop where
  position_eq : s.token.position = position
  gap_blank : ∀ c ∈ s.gap, Text.isBlank c = true
  denotes : Denotes (s.gap ++ r) s.text s.token.lexeme

/-- Blanks, and then the stretches, in a text whose first character has the position `i`. -/
structure LaidOut (i : Nat) (gap : List Char) (ss : List Stretch) : Prop where
  gap_blank : ∀ c ∈ gap, Text.isBlank c = true
  stands : ∀ before s after, ss = before ++ s :: after →
    s.Stands (i + (gap ++ spread before).length) (spread after)

namespace LaidOut

variable {i : Nat} {gap : List Char} {s : Stretch} {ss : List Stretch}

theorem blank {c : Char} (hc : Text.isBlank c = true) (h : LaidOut (i + 1) gap ss) :
    LaidOut i (c :: gap) ss where
  gap_blank := List.forall_mem_cons.2 ⟨hc, h.gap_blank⟩
  stands before s after he := by
    have hs := h.stands before s after he
    rwa [Nat.add_right_comm, Nat.add_assoc] at hs

theorem cons (hs : s.Stands i (spread ss)) (h : LaidOut (i + s.text.length) s.gap ss) :
    LaidOut i [] (s :: ss) where
  gap_blank := nofun
  stands before t after he := by
    cases before with
    | nil =>
      cases he
      exact hs
    | cons u before =>
      cases he
      have ht := h.stands before t after rfl
      rwa [Nat.add_assoc, ← List.length_append, ← List.append_assoc] at ht

theorem tail (h : LaidOut i gap (s :: ss)) :
    s.Stands (i + gap.length) (spread ss) ∧ LaidOut (i + gap.length + s.text.length) s.gap ss := by
  have hs := h.stands [] s ss rfl
  simp only [spread, List.flatMap_nil, List.append_nil] at hs
  refine ⟨hs, hs.gap_blank, fun before t after he ↦ ?_⟩
  have ht := h.stands (s :: before) t after (congrArg (s :: ·) he)
  simp only [spread, List.flatMap_cons, List.length_append, ← Nat.add_assoc] at ht ⊢
  exact ht

end LaidOut

theorem Spelled.laidOut {i : Nat} {cs : List Char} {ts : List Token} (h : Spelled [] i cs ts) :
    ∃ gap ss, cs = gap ++ spread ss ∧ ss.map Stretch.token = ts ∧ LaidOut i gap ss := by
  induction h with
  | nil => exact ⟨[], [], rfl, rfl, nofun, by simp⟩
  | @blank i c cs ts hc _ ih =>
    obtain ⟨gap, ss, rfl, rfl, hl⟩ := ih
    exact ⟨c :: gap, ss, rfl, rfl, hl.blank hc⟩
  | @lexeme i x cs l ts hx _ ih =>
    obtain ⟨gap, ss, rfl, rfl, hl⟩ := ih
    refine ⟨[], ⟨⟨l, i⟩, x, gap⟩ :: ss, ?_, rfl, .cons ⟨rfl, hl.gap_blank, ?_⟩ hl⟩
    · simp [spread]
    · rw [List.append_nil] at hx
      exact hx.denotes

theorem LaidOut.spelled {i : Nat} {gap : List Char} {ss : List Stretch} (h : LaidOut i gap ss) :
    Spelled [] i (gap ++ spread ss) (ss.map Stretch.token) := by
  induction ss generalizing i gap with
  | nil => exact .blanks h.gap_blank .nil
  | cons s ss ih =>
    obtain ⟨hs, hl⟩ := h.tail
    have hx : Spelling s.token.lexeme s.text ((s.gap ++ spread ss) ++ []) := by
      rw [List.append_nil]
      exact hs.denotes.spelling
    have hrest := Spelled.lexeme hx (ih hl)
    rw [← hs.position_eq] at hrest
    refine .blanks h.gap_blank ?_
    rw [← hs.position_eq]
    simpa only [spread, List.flatMap_cons, List.map_cons, List.append_assoc] using hrest

/-- A text is read as tokens exactly if it is blanks, the lexeme of the first token, blanks, the
lexeme of the second one, and so on to its end, where every lexeme stands at its token's position
and denotes the token in front of what follows it there. -/
theorem read_eq_ok_iff_laidOut (query : String) (ts : List Token) :
    read query = .ok ts ↔ ∃ gap ss, query.toList = gap ++ spread ss ∧ ss.map Stretch.token = ts ∧
      (ts.Pairwise fun t u ↦ t.position < u.position) ∧ LaidOut 0 gap ss := by
  constructor
  · intro h
    have hs : Spelled [] 0 query.toList ts := spelled_of_readFrom h
    obtain ⟨gap, ss, hq, ht, hl⟩ := hs.laidOut
    exact ⟨gap, ss, hq, ht, hs.positions_increase, hl⟩
  · rintro ⟨gap, ss, hq, rfl, -, hl⟩
    unfold read
    rw [hq]
    exact readFrom_eq_ok_iff.2 hl.spelled

end Token

end GroupSearch
