import GroupSearch.Proofs.Spelling

namespace GroupSearch

namespace Operand

def unescaped : List Char → List Char
  | [] => []
  | '\\' :: _ :: cs => unescaped cs
  | c :: cs => c :: unescaped cs

theorem readQuoted_eq_none_iff {cs : List Char} : readQuoted cs = none ↔ '"' ∉ unescaped cs := by
  fun_induction readQuoted cs with
  | case1 => simp [unescaped]
  | case2 r => simp [unescaped]
  | case3 c r ih => simpa [unescaped] using ih
  | case4 c r hq hb ih =>
    have hu : unescaped (c :: r) = c :: unescaped r := by
      rw [unescaped.eq_3]
      exact fun d t hc ht ↦ hb d t hc ht
    have hc : c ≠ '"' := fun h ↦ hq h
    simp [hu, ih, Ne.symm hc]

end Operand

namespace Token

open Operand

variable {i : Nat} {cs : List Char} {e : Cause}

/-- Where and why a text whose first character has the position `i` is not read to its end. -/
inductive Breaks (i : Nat) : List Char → Cause → Prop
  | quote {before after : List Char} {ts : List Token} :
      Spelled [] i before ts → '"' ∉ unescaped after →
      Breaks i (before ++ '"' :: after) (.unterminatedQuote (i + before.length))
  | group {before k after : List Char} {ts : List Token} {t : Token} :
      Spelled [] i (before ++ (k ++ [':'])) (ts ++ [t]) → t.position = i + before.length →
      IsName k → Breaks i (before ++ (k ++ [':']) ++ '(' :: after)
        (.groupedValue (String.ofList (k.map Char.toLower)) (i + before.length))

theorem Spelling.alone {l : Lexeme} {x r : List Char} (h : Spelling l x r) :
    ∃ l', Spelling l' x [] := by
  cases h with
  | openParen => exact ⟨_, .openParen⟩
  | closeParen => exact ⟨_, .closeParen⟩
  | dash | loneDash => exact ⟨_, .loneDash rfl⟩
  | quoted hw => exact ⟨_, .quoted hw⟩
  | value hk hne hv _ => exact ⟨_, .value hk hne hv endsWord_nil⟩
  | quotedValue hk hw => exact ⟨_, .quotedValue hk hw⟩
  | noValue hk _ _ _ => exact ⟨_, .noValue hk endsWord_nil nofun nofun⟩
  | word hne hw hd hs _ => exact ⟨_, .word hne hw hd hs endsWord_nil⟩

namespace Spelled

variable {rest : List Char} {ts us : List Token} {t : Token}

theorem cons_alone {l : Lexeme} {x r : List Char} (hx : Spelling l x (cs ++ r))
    (h : Spelled [] (i + x.length) cs ts) : ∃ l', Spelled [] i (x ++ cs) (⟨l', i⟩ :: ts) := by
  cases cs with
  | nil =>
    obtain ⟨l', hl⟩ := hx.alone
    exact ⟨l', .lexeme hl h⟩
  | cons c cs => exact ⟨l, .lexeme (hx.congr rfl) h⟩

theorem split_at (h : Spelled rest i cs (ts ++ t :: us)) : ∃ before after, cs = before ++ after ∧
    t.position = i + before.length ∧ Spelled (after ++ rest) i before ts := by
  generalize hall : ts ++ t :: us = all at h
  induction h generalizing ts with
  | nil => simp at hall
  | @blank i c cs all hc _ ih =>
    obtain ⟨before, after, rfl, hpos, hb⟩ := ih hall
    refine ⟨c :: before, after, rfl, ?_, .blank hc hb⟩
    rw [hpos, List.length_cons, Nat.add_right_comm, Nat.add_assoc]
  | @lexeme i x cs l all hx _ ih =>
    cases ts with
    | nil =>
      cases hall
      exact ⟨[], x ++ cs, rfl, rfl, .nil⟩
    | cons u ts =>
      cases hall
      obtain ⟨before, after, rfl, hpos, hb⟩ := ih rfl
      refine ⟨x ++ before, after, (List.append_assoc ..).symm, ?_, .lexeme ?_ hb⟩
      · rw [hpos, List.length_append, Nat.add_assoc]
      · rwa [List.append_assoc] at hx

end Spelled

theorem readFrom_quote {after : List Char} (h : '"' ∉ unescaped after) (i : Nat) :
    readFrom i ('"' :: after) = .error (.unterminatedQuote i) := by
  refine readFrom_of_readLexeme_error rfl ?_
  simp only [readLexeme, quotedAt, readQuoted_eq_none_iff.2 h]
  rfl

theorem readFrom_name {k r : List Char} (hk : IsName k) (hr : EndsWord r)
    (h : readWord i (k ++ [':']) r = .error e) : readFrom i (k ++ [':'] ++ r) = .error e := by
  obtain ⟨c, w, hx, hc, hw⟩ := readLexeme_name (v := []) hk nofun hr
  rw [hx, List.cons_append]
  exact readFrom_of_readLexeme_error hc ((hw i).trans h)

theorem readFrom_name_quote {k after : List Char} (hk : IsName k) (h : '"' ∉ unescaped after)
    (i : Nat) : readFrom i (k ++ [':'] ++ '"' :: after) =
      .error (.unterminatedQuote (i + (k ++ [':']).length)) := by
  refine readFrom_name hk (endsWord_cons after rfl) ?_
  rw [readWord, hk.splitKeyword]
  simp only [quotedAt, readQuoted_eq_none_iff.2 h]
  rfl

theorem readFrom_name_group {k : List Char} (hk : IsName k) (after : List Char) (i : Nat) :
    readFrom i (k ++ [':'] ++ '(' :: after) =
      .error (.groupedValue (String.ofList (k.map Char.toLower)) i) := by
  refine readFrom_name hk (endsWord_cons after rfl) ?_
  rw [readWord, hk.splitKeyword]
  rfl

/-- A quote that is not closed is met where it opens, whatever the text in front is read as. -/
theorem readFrom_before_quote {ts : List Token} {after : List Char} (h : Spelled [] i cs ts)
    (hq : '"' ∉ unescaped after) :
    readFrom i (cs ++ '"' :: after) = .error (.unterminatedQuote (i + cs.length)) := by
  induction h with
  | nil => exact readFrom_quote hq _
  | @blank i c cs ts hc _ ih =>
    rw [List.cons_append, readFrom_of_isBlank hc, ih, List.length_cons, Nat.add_right_comm,
      Nat.add_assoc]
  | @lexeme i x cs l ts hx h ih =>
    have hread {l' : Lexeme} (hl : Spelling l' x (cs ++ '"' :: after)) :
        readFrom i (x ++ cs ++ '"' :: after) =
          .error (.unterminatedQuote (i + (x ++ cs).length)) := by
      rw [List.append_assoc, hl.readFrom, ih, List.length_append, Nat.add_assoc]
      rfl
    cases cs with
    | cons c cs => exact hread (hx.congr rfl)
    | nil =>
      -- The quote may make the last lexeme another one: a dash that negates, or a value's name.
      have hend : EndsWord ('"' :: after) := endsWord_cons after rfl
      rcases hx.extend hend with hs | ⟨rfl, hn⟩ | ⟨k, hk, rfl, -⟩
      · exact hread hs
      · exact hread (.dash hn)
      · rw [List.append_nil]
        exact readFrom_name_quote hk hq i

theorem Breaks.readFrom (h : Breaks i cs e) : readFrom i cs = .error e := by
  cases h with
  | quote h hq => exact readFrom_before_quote h hq
  | @group before k after ts t h hpos hk =>
    obtain ⟨before', rest, hcs, hpos', hb⟩ := h.split_at
    obtain ⟨rfl, rfl⟩ := List.append_inj hcs (by omega)
    have hb' : Spelled (k ++ [':'] ++ '(' :: after) i before ts := by
      refine hb.congr ?_
      cases k <;> rfl
    rw [List.append_assoc, hb'.readFrom, readFrom_name_group hk]
    rfl

theorem Breaks.blank {c : Char} (hc : Text.isBlank c = true) (h : Breaks (i + 1) cs e) :
    Breaks i (c :: cs) e := by
  cases h with
  | @quote before after ts h hq =>
    have hb := Breaks.quote (.blank hc h) hq
    rwa [List.length_cons, ← Nat.add_assoc, Nat.add_right_comm] at hb
  | @group before k after ts t h hpos hk =>
    have hpos' : t.position = i + (c :: before).length := by
      rw [hpos, List.length_cons, Nat.add_right_comm, Nat.add_assoc]
    have hb := @Breaks.group _ (c :: before) _ after _ _ (.blank hc h) hpos' hk
    rwa [List.length_cons, ← Nat.add_assoc, Nat.add_right_comm] at hb

theorem Breaks.lexeme {l : Lexeme} {x : List Char} (hx : Spelling l x cs)
    (h : Breaks (i + x.length) cs e) : Breaks i (x ++ cs) e := by
  cases h with
  | @quote before after ts h hq =>
    obtain ⟨l', hl⟩ := Spelled.cons_alone hx h
    have hb := Breaks.quote hl hq
    rwa [List.length_append, ← Nat.add_assoc, List.append_assoc] at hb
  | @group before k after ts t h hpos hk =>
    obtain ⟨l', hl⟩ := Spelled.cons_alone hx h
    rw [← List.append_assoc, ← List.cons_append] at hl
    have hpos' : t.position = i + (x ++ before).length := by
      rw [hpos, List.length_append, Nat.add_assoc]
    have hb := @Breaks.group _ _ _ after _ _ hl hpos' hk
    rwa [List.length_append, ← Nat.add_assoc, List.append_assoc, List.append_assoc,
      ← List.append_assoc before] at hb

theorem breaks_of_readWord {w r : List Char} (h : readWord i w r = .error e) :
    Breaks i (w ++ r) e := by
  unfold readWord at h
  split at h
  case h_1 | h_2 => cases h
  case h_3 k hs =>
    obtain ⟨k, hk, rfl, rfl⟩ := isName_of_splitKeyword hs
    have hname : Spelled [] i (k ++ [':']) [_] :=
      .single (.noValue hk endsWord_nil nofun nofun)
    split at h
    case h_1 after =>
      unfold quotedAt at h
      split at h <;> cases h
      exact .quote hname (readQuoted_eq_none_iff.1 ‹_›)
    case h_2 after =>
      cases h
      exact @Breaks.group _ [] k after [] _ hname rfl hk
    case h_3 => cases h

theorem breaks_of_readLexeme {c : Char} (h : readLexeme i c cs = .error e) :
    Breaks i (c :: cs) e := by
  unfold readLexeme at h
  split at h
  case isTrue => cases h
  split at h
  case isTrue => cases h
  split at h
  case isTrue hc =>
    subst hc
    unfold quotedAt at h
    split at h <;> cases h
    exact @Breaks.quote _ [] cs _ .nil (readQuoted_eq_none_iff.1 ‹_›)
  split at h
  case isTrue => cases h
  case isFalse =>
    have hb := breaks_of_readWord h
    rwa [List.takeWhile_append_dropWhile] at hb

theorem breaks_of_readFrom (h : readFrom i cs = .error e) : Breaks i cs e := by
  induction i, cs using reading_induction with
  | nil i =>
    rw [readFrom_nil] at h
    cases h
  | blank i c cs hc ih =>
    rw [readFrom_of_isBlank hc] at h
    exact .blank hc (ih h)
  | broken i c cs e' hc he =>
    rw [readFrom_of_readLexeme_error hc he] at h
    cases h
    exact breaks_of_readLexeme he
  | lexeme i l x cs hx ih =>
    rw [hx.readFrom] at h
    cases hr : Token.readFrom (i + x.length) cs with
    | ok ts =>
      rw [hr] at h
      cases h
    | error e' =>
      rw [hr] at h
      cases h
      exact .lexeme hx (ih hr)

theorem readFrom_eq_error_iff : readFrom i cs = .error e ↔ Breaks i cs e :=
  ⟨breaks_of_readFrom, Breaks.readFrom⟩

theorem readFrom_eq_unterminatedQuote_iff {p : Nat} :
    readFrom i cs = .error (.unterminatedQuote p) ↔
      ∃ before after ts, cs = before ++ '"' :: after ∧ i + before.length = p ∧
        readFrom i before = .ok ts ∧ '"' ∉ unescaped after := by
  rw [readFrom_eq_error_iff]
  constructor
  · rintro (@⟨before, after, ts, hs, hq⟩ | _)
    exact ⟨before, after, ts, rfl, rfl, readFrom_eq_ok_iff.2 hs, hq⟩
  · rintro ⟨before, after, ts, rfl, rfl, hs, hq⟩
    exact .quote (readFrom_eq_ok_iff.1 hs) hq

theorem readFrom_eq_groupedValue_iff {keyword : String} {p : Nat} :
    readFrom i cs = .error (.groupedValue keyword p) ↔
      ∃ before k after ts t, cs = before ++ (k ++ [':']) ++ '(' :: after ∧ i + before.length = p ∧
        readFrom i (before ++ (k ++ [':'])) = .ok (ts ++ [t]) ∧ t.position = p ∧ IsName k ∧
        keyword = String.ofList (k.map Char.toLower) := by
  rw [readFrom_eq_error_iff]
  constructor
  · rintro (_ | @⟨before, k, after, ts, t, hs, hpos, hk⟩)
    exact ⟨before, k, after, ts, t, rfl, rfl, readFrom_eq_ok_iff.2 hs, hpos, hk, rfl⟩
  · rintro ⟨before, k, after, ts, t, rfl, rfl, hs, hpos, hk, rfl⟩
    exact .group (readFrom_eq_ok_iff.1 hs) hpos hk

theorem Breaks.cause (h : Breaks i cs e) :
    (∃ p, e = .unterminatedQuote p) ∨ ∃ keyword p, e = .groupedValue keyword p := by
  cases h with
  | quote => exact .inl ⟨_, rfl⟩
  | group => exact .inr ⟨_, _, rfl⟩

theorem kind_of_readFrom (h : readFrom i cs = .error e) : e.kind = .grammar := by
  rcases (breaks_of_readFrom h).cause with ⟨p, rfl⟩ | ⟨keyword, p, rfl⟩ <;> rfl

/-- A text is not read exactly if up to some double quote it is read, and behind that quote no other
one closes it, or if up to the colon of some keyword it is read with that keyword as its last
lexeme, and directly behind the colon stands an opening parenthesis. -/
theorem unread_iff (query : String) :
    (∀ p, read query = .error (.unterminatedQuote p) ↔
      ∃ before after ts, query.toList = before ++ '"' :: after ∧ before.length = p ∧
        read (String.ofList before) = .ok ts ∧ '"' ∉ unescaped after) ∧
    (∀ keyword p, read query = .error (.groupedValue keyword p) ↔
      ∃ before k after ts t, query.toList = before ++ (k ++ [':']) ++ '(' :: after ∧
        before.length = p ∧ read (String.ofList (before ++ (k ++ [':']))) = .ok (ts ++ [t]) ∧
        t.position = p ∧ IsName k ∧ keyword = String.ofList (k.map Char.toLower)) ∧
    ((∃ ts, read query = .ok ts) ∨ (∃ p, read query = .error (.unterminatedQuote p)) ∨
      ∃ keyword p, read query = .error (.groupedValue keyword p)) ∧
    (∀ p, (Cause.unterminatedQuote p).failure =
      ⟨.grammar, s!"Unterminated quoted string at position {p}"⟩) ∧
    ∀ keyword p, (Cause.groupedValue keyword p).failure =
      ⟨.grammar, s!"Grouped values are not supported for {keyword} at position {p}"⟩ := by
  have hread (cs : List Char) : read (String.ofList cs) = readFrom 0 cs := by
    rw [read, String.toList_ofList]
  simp only [hread]
  refine ⟨fun p ↦ ?_, fun keyword p ↦ ?_, ?_, fun _ ↦ rfl, fun _ _ ↦ rfl⟩
  · have h := @readFrom_eq_unterminatedQuote_iff 0 query.toList p
    simp only [Nat.zero_add] at h
    exact h
  · have h := @readFrom_eq_groupedValue_iff 0 query.toList keyword p
    simp only [Nat.zero_add] at h
    exact h
  · cases h : read query with
    | ok ts => exact .inl ⟨ts, rfl⟩
    | error e =>
      have hb : Breaks 0 query.toList e := readFrom_eq_error_iff.1 h
      rcases hb.cause with ⟨p, rfl⟩ | ⟨keyword, p, rfl⟩
      · exact .inr (.inl ⟨p, rfl⟩)
      · exact .inr (.inr ⟨keyword, p, rfl⟩)

end Token

end GroupSearch
