import GroupSearch.Query.Token

namespace GroupSearch

namespace Operand

/-- A text up to the first double quote that no backslash stands for, and the value in it. -/
inductive Quotes : List Char → List Char → Prop
  | close : Quotes ['"'] []
  | escaped {c : Char} {w v : List Char} : Quotes w v → Quotes ('\\' :: c :: w) (c :: v)
  | plain {c : Char} {w v : List Char} :
      c ≠ '"' → c ≠ '\\' → Quotes w v → Quotes (c :: w) (c :: v)

theorem Quotes.readQuoted {w v : List Char} (h : Quotes w v) (r : List Char) :
    readQuoted (w ++ r) = some (v, r) := by
  induction h with
  | close => rfl
  | escaped _ ih => simp [Operand.readQuoted, ih]
  | plain hq hb _ ih => simp [Operand.readQuoted, hb, ih]

theorem quotes_of_readQuoted {cs v r : List Char} (h : readQuoted cs = some (v, r)) :
    ∃ w, cs = w ++ r ∧ Quotes w v := by
  fun_induction readQuoted cs generalizing v r with
  | case1 => cases h
  | case2 t =>
    cases h
    exact ⟨['"'], rfl, .close⟩
  | case3 c t ih =>
    obtain ⟨⟨v', r'⟩, ht, hv⟩ := Option.map_eq_some_iff.1 h
    cases hv
    obtain ⟨w, rfl, hw⟩ := ih ht
    exact ⟨'\\' :: c :: w, rfl, .escaped hw⟩
  | case4 c t hq hb ih =>
    obtain ⟨⟨v', r'⟩, ht, hv⟩ := Option.map_eq_some_iff.1 h
    cases hv
    obtain ⟨w, rfl, hw⟩ := ih ht
    refine ⟨c :: w, rfl, .plain hq ?_ hw⟩
    -- A backslash at the end would leave no closing quote.
    intro hc
    cases w with
    | nil => cases hw
    | cons d w => exact hb d (w ++ r') hc rfl

theorem not_isBlank_of_isWordChar {c : Char} (h : isWordChar c = true) :
    Text.isBlank c = false := by
  simp only [isWordChar, Bool.not_eq_true', Bool.or_eq_false_iff] at h
  exact h.1.1.1

def EndsWord (cs : List Char) : Prop := ∀ c ∈ cs.head?, isWordChar c = false

theorem endsWord_nil : EndsWord [] := nofun

theorem endsWord_cons {c : Char} (cs : List Char) (h : isWordChar c = false) :
    EndsWord (c :: cs) := by
  rintro _ ⟨⟩
  exact h

theorem EndsWord.congr {r r' : List Char} (h : EndsWord r) (hr : r.head? = r'.head?) :
    EndsWord r' := fun c hc ↦ h c (hr ▸ hc)

theorem endsWord_dropWhile (cs : List Char) : EndsWord (cs.dropWhile isWordChar) := by
  intro c hc
  have h := List.head?_dropWhile_not isWordChar cs
  rw [hc] at h
  exact h

theorem takeWhile_word {w r : List Char} (hw : ∀ c ∈ w, isWordChar c = true) (hr : EndsWord r) :
    (w ++ r).takeWhile isWordChar = w := by
  rw [List.takeWhile_append_of_pos hw]
  cases r with
  | nil => simp
  | cons c r => rw [List.takeWhile_cons_of_neg (by simp [hr c rfl]), List.append_nil]

theorem dropWhile_word {w r : List Char} (hw : ∀ c ∈ w, isWordChar c = true) (hr : EndsWord r) :
    (w ++ r).dropWhile isWordChar = r := by
  rw [List.dropWhile_append_of_pos hw]
  cases r with
  | nil => rfl
  | cons c r => exact List.dropWhile_cons_of_neg (by simp [hr c rfl])

end Operand

namespace Token

open Operand

theorem code_of_isKeywordChar {c : Char} (h : isKeywordChar c = true) :
    65 ≤ c.toNat ∧ c.toNat ≤ 90 ∨ 97 ≤ c.toNat ∧ c.toNat ≤ 122 ∨ c.toNat = 95 := by
  have h : (decide (c.val ≥ 'A'.val ∧ c.val ≤ 'Z'.val) ||
    (decide (c.val ≥ 'a'.val) && decide (c.val ≤ 'z'.val)) || c == '_') = true := h
  simp only [Bool.or_eq_true, Bool.and_eq_true, beq_iff_eq, decide_eq_true_eq] at h
  rcases h with (⟨h, h'⟩ | ⟨h, h'⟩) | rfl
  · exact .inl ⟨UInt32.le_iff_toNat_le.1 h, UInt32.le_iff_toNat_le.1 h'⟩
  · exact .inr (.inl ⟨UInt32.le_iff_toNat_le.1 h, UInt32.le_iff_toNat_le.1 h'⟩)
  · exact .inr (.inr rfl)

theorem not_isBlank_of_isKeywordChar {c : Char} (h : isKeywordChar c = true) :
    Text.isBlank c = false := by
  have hc := code_of_isKeywordChar h
  simp only [Text.isBlank, Bool.or_eq_false_iff, Bool.and_eq_false_iff, decide_eq_false_iff_not,
    beq_eq_false_iff_ne]
  omega

theorem ne_of_isKeywordChar {c : Char} (h : isKeywordChar c = true) (d : Char) (hd : d.toNat < 65) :
    c ≠ d := by
  rintro rfl
  have := code_of_isKeywordChar h
  omega

theorem isWordChar_of_isKeywordChar {c : Char} (h : isKeywordChar c = true) :
    isWordChar c = true := by
  simp [isWordChar, not_isBlank_of_isKeywordChar h, ne_of_isKeywordChar h '(' (by decide),
    ne_of_isKeywordChar h ')' (by decide), ne_of_isKeywordChar h '"' (by decide)]

/-- What can stand in front of a colon. -/
structure IsName (k : List Char) : Prop where
  ne_nil : k ≠ []
  letters : ∀ c ∈ k, isKeywordChar c = true

theorem IsName.isWordChar_of_mem {k v : List Char} (hk : IsName k)
    (hv : ∀ c ∈ v, isWordChar c = true) : ∀ c ∈ k ++ ':' :: v, isWordChar c = true := by
  intro c hc
  rw [List.mem_append, List.mem_cons] at hc
  rcases hc with hc | rfl | hc
  · exact isWordChar_of_isKeywordChar (hk.letters c hc)
  · rfl
  · exact hv c hc

theorem IsName.splitKeyword {k : List Char} (hk : IsName k) (v : List Char) :
    splitKeyword (k ++ ':' :: v) = some (k.map Char.toLower, v) := by
  have ht : (k ++ ':' :: v).takeWhile isKeywordChar = k := by
    rw [List.takeWhile_append_of_pos hk.letters, List.takeWhile_cons_of_neg (by decide),
      List.append_nil]
  have hd : (k ++ ':' :: v).dropWhile isKeywordChar = ':' :: v := by
    rw [List.dropWhile_append_of_pos hk.letters, List.dropWhile_cons_of_neg (by decide)]
  unfold Token.splitKeyword
  rw [ht, hd]
  cases k with
  | nil => exact (hk.ne_nil rfl).elim
  | cons c k => rfl

theorem isName_of_splitKeyword {w k' v : List Char} (h : splitKeyword w = some (k', v)) :
    ∃ k, IsName k ∧ k' = k.map Char.toLower ∧ w = k ++ ':' :: v := by
  unfold splitKeyword at h
  split at h
  case h_1 c k v' ht hd =>
    cases h
    refine ⟨c :: k, ⟨nofun, fun d hd ↦ ?_⟩, rfl, ?_⟩
    · rw [← ht] at hd
      exact List.all_eq_true.1 List.all_takeWhile d hd
    · rw [← ht, ← hd, List.takeWhile_append_dropWhile]
  case h_2 => cases h

/-- The lexeme is spelled as the first text where the second one follows. -/
inductive Spelling : Lexeme → List Char → List Char → Prop
  | openParen {r : List Char} : Spelling .openParen ['('] r
  | closeParen {r : List Char} : Spelling .closeParen [')'] r
  | dash {r : List Char} : negates r = true → Spelling .not ['-'] r
  | loneDash {r : List Char} : negates r = false → Spelling (.clause (.term "-")) ['-'] r
  | quoted {w v r : List Char} :
      Quotes w v → Spelling (.clause (.term (String.ofList v))) ('"' :: w) r
  | value {k v r : List Char} : IsName k → v ≠ [] → (∀ c ∈ v, isWordChar c = true) → EndsWord r →
      Spelling (.clause (.operator (String.ofList (k.map Char.toLower)) (String.ofList v)))
        (k ++ ':' :: v) r
  | quotedValue {k w v r : List Char} : IsName k → Quotes w v →
      Spelling (.clause (.operator (String.ofList (k.map Char.toLower)) (String.ofList v)))
        (k ++ ':' :: '"' :: w) r
  | noValue {k r : List Char} : IsName k → EndsWord r → r.head? ≠ some '"' → r.head? ≠ some '(' →
      Spelling (.clause (.operator (String.ofList (k.map Char.toLower)) "")) (k ++ [':']) r
  | word {w r : List Char} : w ≠ [] → (∀ c ∈ w, isWordChar c = true) → w.head? ≠ some '-' →
      splitKeyword w = none → EndsWord r → Spelling (ofWord w) w r

theorem readLexeme_word {c : Char} {w r : List Char} (hw : ∀ d ∈ c :: w, isWordChar d = true)
    (hc : c ≠ '-') (hr : EndsWord r) (i : Nat) :
    readLexeme i c (w ++ r) = readWord i (c :: w) r := by
  have hb := hw c List.mem_cons_self
  simp only [isWordChar, Bool.not_eq_true', Bool.or_eq_false_iff, beq_eq_false_iff_ne] at hb
  unfold readLexeme
  rw [if_neg hb.1.1.2, if_neg hb.1.2, if_neg hb.2, if_neg (fun h ↦ hc h.1), ← List.cons_append,
    takeWhile_word hw hr, dropWhile_word hw hr]

theorem endsWord_of_negates {r : List Char} (h : negates r = false) : EndsWord r := by
  cases r with
  | nil => exact endsWord_nil
  | cons c r =>
    simp only [negates, Bool.not_eq_false'] at h
    exact endsWord_cons r (by simp [isWordChar, h])

theorem readLexeme_loneDash {r : List Char} (h : negates r = false) (i : Nat) :
    readLexeme i '-' r = .ok (.clause (.term "-"), r) := by
  have hw : ∀ c ∈ ['-'], isWordChar c = true := by simp [isWordChar, Text.isBlank]
  have hr := endsWord_of_negates h
  unfold readLexeme
  rw [if_neg (by decide), if_neg (by decide), if_neg (by decide), if_neg (by simp [h]),
    ← List.singleton_append, takeWhile_word hw hr, dropWhile_word hw hr]
  rfl

theorem readLexeme_name {k v r : List Char} (hk : IsName k) (hv : ∀ c ∈ v, isWordChar c = true)
    (hr : EndsWord r) : ∃ c w, k ++ ':' :: v = c :: w ∧ Text.isBlank c = false ∧
      ∀ i, readLexeme i c (w ++ r) = readWord i (k ++ ':' :: v) r := by
  cases k with
  | nil => exact (hk.ne_nil rfl).elim
  | cons c k =>
    have hc := hk.letters c List.mem_cons_self
    exact ⟨c, k ++ ':' :: v, rfl, not_isBlank_of_isKeywordChar hc,
      readLexeme_word (hk.isWordChar_of_mem hv) (ne_of_isKeywordChar hc '-' (by decide)) hr⟩

theorem Spelling.read {l : Lexeme} {x r : List Char} (h : Spelling l x r) :
    ∃ c w, x = c :: w ∧ Text.isBlank c = false ∧ ∀ i, readLexeme i c (w ++ r) = .ok (l, r) := by
  cases h with
  | openParen | closeParen => exact ⟨_, [], rfl, rfl, fun _ ↦ rfl⟩
  | dash hr => exact ⟨_, [], rfl, rfl, fun i ↦ by simp [readLexeme, hr]⟩
  | loneDash hr => exact ⟨_, [], rfl, rfl, readLexeme_loneDash hr⟩
  | quoted hw =>
    refine ⟨_, _, rfl, rfl, fun i ↦ ?_⟩
    simp only [readLexeme, quotedAt, hw.readQuoted]
    rfl
  | @value k v _ hk hne hv hr =>
    obtain ⟨c, w, hx, hc, hw⟩ := readLexeme_name hk hv hr
    refine ⟨c, w, hx, hc, fun i ↦ ?_⟩
    rw [hw, readWord, hk.splitKeyword]
    cases v with
    | nil => exact (hne rfl).elim
    | cons d v => rfl
  | @quotedValue k w v _ hk hq =>
    -- The word ends at the opening quote.
    obtain ⟨c, u, hx, hc, hu⟩ :=
      readLexeme_name (v := []) (r := '"' :: (w ++ r)) hk nofun (endsWord_cons _ rfl)
    refine ⟨c, u ++ '"' :: w, ?_, hc, fun i ↦ ?_⟩
    · rw [← List.cons_append, ← hx, List.append_assoc]
      rfl
    · rw [List.append_assoc, List.cons_append, hu, readWord, hk.splitKeyword]
      simp only [quotedAt, hq.readQuoted]
      rfl
  | noValue hk hr hq hp =>
    obtain ⟨c, w, hx, hc, hw⟩ := readLexeme_name (v := []) hk nofun hr
    refine ⟨c, w, hx, hc, fun i ↦ ?_⟩
    rw [hw, readWord, hk.splitKeyword]
    dsimp only
    split
    · exact (hq rfl).elim
    · exact (hp rfl).elim
    · rfl
  | word hne hw hd hs hr =>
    cases x with
    | nil => exact (hne rfl).elim
    | cons c w =>
      have hc : c ≠ '-' := fun hc ↦ hd (congrArg some hc)
      refine ⟨c, w, rfl, not_isBlank_of_isWordChar (hw c List.mem_cons_self), fun i ↦ ?_⟩
      rw [readLexeme_word hw hc hr, readWord, hs]

namespace Spelling

variable {r : List Char}

theorem and (h : EndsWord r) : Spelling .and ['A', 'N', 'D'] r :=
  word (w := ['A', 'N', 'D']) nofun (List.all_eq_true.1 rfl) (by decide) rfl h

theorem or (h : EndsWord r) : Spelling .or ['O', 'R'] r :=
  word (w := ['O', 'R']) nofun (List.all_eq_true.1 rfl) (by decide) rfl h

theorem not (h : EndsWord r) : Spelling .not ['N', 'O', 'T'] r :=
  word (w := ['N', 'O', 'T']) nofun (List.all_eq_true.1 rfl) (by decide) rfl h

end Spelling

theorem spelling_of_readWord {i : Nat} {w rest r : List Char} {l : Lexeme} (hne : w ≠ [])
    (hw : ∀ c ∈ w, isWordChar c = true) (hd : w.head? ≠ some '-') (hrest : EndsWord rest)
    (h : readWord i w rest = .ok (l, r)) : ∃ x, w ++ rest = x ++ r ∧ Spelling l x r := by
  unfold readWord at h
  split at h
  case h_1 hs =>
    cases h
    exact ⟨w, rfl, .word hne hw hd hs hrest⟩
  case h_2 k d v hs =>
    cases h
    obtain ⟨k, hk, rfl, rfl⟩ := isName_of_splitKeyword hs
    exact ⟨_, rfl, .value hk nofun
      (fun c hc ↦ hw c (List.mem_append_right _ (List.mem_cons_of_mem _ hc))) hrest⟩
  case h_3 k hs =>
    obtain ⟨k, hk, rfl, rfl⟩ := isName_of_splitKeyword hs
    split at h
    case h_1 t =>
      unfold quotedAt at h
      split at h
      case h_1 v t' ht =>
        cases h
        obtain ⟨u, rfl, hu⟩ := quotes_of_readQuoted ht
        exact ⟨k ++ ':' :: '"' :: u, by simp, .quotedValue hk hu⟩
      case h_2 => cases h
    case h_2 => cases h
    case h_3 hq hp =>
      cases h
      refine ⟨_, rfl, .noValue hk hrest ?_ ?_⟩
      · intro hr
        obtain ⟨t, rfl⟩ := List.head?_eq_some_iff.1 hr
        exact hq t rfl
      · intro hr
        obtain ⟨t, rfl⟩ := List.head?_eq_some_iff.1 hr
        exact hp t rfl

theorem spelling_of_readLexeme {i : Nat} {c : Char} {cs r : List Char} {l : Lexeme}
    (hc : Text.isBlank c = false) (h : readLexeme i c cs = .ok (l, r)) :
    ∃ x, c :: cs = x ++ r ∧ Spelling l x r := by
  by_cases hneg : c = '-' ∧ negates cs = false
  · obtain ⟨rfl, hcs⟩ := hneg
    rw [readLexeme_loneDash hcs] at h
    cases h
    exact ⟨['-'], rfl, .loneDash hcs⟩
  unfold readLexeme at h
  split at h
  case isTrue ho =>
    cases h
    exact ⟨['('], ho ▸ rfl, .openParen⟩
  split at h
  case isTrue hp =>
    cases h
    exact ⟨[')'], hp ▸ rfl, .closeParen⟩
  split at h
  case isTrue hq =>
    unfold quotedAt at h
    split at h
    case h_1 v t ht =>
      cases h
      obtain ⟨w, rfl, hw⟩ := quotes_of_readQuoted ht
      exact ⟨'"' :: w, hq ▸ rfl, .quoted hw⟩
    case h_2 => cases h
  split at h
  case isTrue hd =>
    cases h
    exact ⟨['-'], hd.1 ▸ rfl, .dash hd.2⟩
  case isFalse ho hp hq hd =>
    have hwc : isWordChar c = true := by simp [isWordChar, hc, ho, hp, hq]
    have hne : c ≠ '-' := fun he ↦ hneg ⟨he, by simpa [he] using hd⟩
    obtain ⟨x, hx, hs⟩ := spelling_of_readWord (by simp [hwc])
      (List.all_eq_true.1 List.all_takeWhile) (by simp [hwc, hne]) (endsWord_dropWhile _) h
    exact ⟨x, by rw [← hx, List.takeWhile_append_dropWhile], hs⟩

theorem Spelling.ne_nil {l : Lexeme} {x r : List Char} (h : Spelling l x r) : x ≠ [] := by
  obtain ⟨c, w, rfl, -⟩ := h.read
  exact nofun

theorem negates_congr {r r' : List Char} (h : r.head? = r'.head?) : negates r = negates r' := by
  cases r <;> cases r' <;> cases h <;> rfl

/-- Of the text behind a lexeme the first character is all that counts. -/
theorem Spelling.congr {l : Lexeme} {x r r' : List Char} (h : Spelling l x r)
    (hr : r.head? = r'.head?) : Spelling l x r' := by
  cases h with
  | openParen => exact .openParen
  | closeParen => exact .closeParen
  | dash hn => exact .dash (negates_congr hr ▸ hn)
  | loneDash hn => exact .loneDash (negates_congr hr ▸ hn)
  | quoted hw => exact .quoted hw
  | value hk hne hv he => exact .value hk hne hv (he.congr hr)
  | quotedValue hk hw => exact .quotedValue hk hw
  | noValue hk he hq hp => exact .noValue hk (he.congr hr) (hr ▸ hq) (hr ▸ hp)
  | word hne hw hd hs he => exact .word hne hw hd hs (he.congr hr)

/-- What is read at the end of a text is read alike in front of a text that may end a word, but for
a dash that comes to negate something and a keyword that comes to have a value. -/
theorem Spelling.extend {l : Lexeme} {x r : List Char} (h : Spelling l x []) (hr : EndsWord r) :
    Spelling l x r ∨ (x = ['-'] ∧ negates r = true) ∨
      ∃ k, IsName k ∧ x = k ++ [':'] ∧ (r.head? = some '"' ∨ r.head? = some '(') := by
  cases h with
  | openParen => exact .inl .openParen
  | closeParen => exact .inl .closeParen
  | dash hn => cases hn
  | loneDash =>
    cases hn : negates r with
    | true => exact .inr (.inl ⟨rfl, rfl⟩)
    | false => exact .inl (.loneDash hn)
  | quoted hw => exact .inl (.quoted hw)
  | value hk hne hv _ => exact .inl (.value hk hne hv hr)
  | quotedValue hk hw => exact .inl (.quotedValue hk hw)
  | noValue hk _ _ _ =>
    by_cases hq : r.head? = some '"'
    · exact .inr (.inr ⟨_, hk, rfl, .inl hq⟩)
    · by_cases hp : r.head? = some '('
      · exact .inr (.inr ⟨_, hk, rfl, .inr hp⟩)
      · exact .inl (.noValue hk hr hq hp)
  | word hne hw hd hs _ => exact .inl (.word hne hw hd hs hr)

/-- At the end of a text and in front of a closing parenthesis only a dash is not read alike. -/
theorem Spelling.inside {l : Lexeme} {x : List Char} (h : Spelling l x []) (hx : x ≠ ['-'])
    (r : List Char) : Spelling l x (')' :: r) := by
  have hr : EndsWord (')' :: r) := endsWord_cons r rfl
  rcases h.extend hr with hs | ⟨hd, -⟩ | ⟨k, -, -, hp⟩
  · exact hs
  · exact (hx hd).elim
  · simp at hp

theorem Spelling.eq_of_dash {l : Lexeme} {r : List Char} (h : Spelling l ['-'] r)
    (hr : negates r = false) : l = .clause (.term "-") := by
  obtain ⟨c, w, hx, -, hw⟩ := h.read
  cases hx
  have := (hw 0).symm.trans (readLexeme_loneDash hr 0)
  cases this
  rfl

/-- The text, whose first character has the position `i`, is spelled with the tokens where `rest`
follows. -/
inductive Spelled (rest : List Char) : Nat → List Char → List Token → Prop
  | nil {i : Nat} : Spelled rest i [] []
  | blank {i : Nat} {c : Char} {cs : List Char} {ts : List Token} :
      Text.isBlank c = true → Spelled rest (i + 1) cs ts → Spelled rest i (c :: cs) ts
  | lexeme {i : Nat} {x cs : List Char} {l : Lexeme} {ts : List Token} :
      Spelling l x (cs ++ rest) → Spelled rest (i + x.length) cs ts →
      Spelled rest i (x ++ cs) (⟨l, i⟩ :: ts)

def shift (k : Nat) (t : Token) : Token := ⟨t.lexeme, t.position + k⟩

theorem readFrom_nil (i : Nat) : readFrom i [] = .ok [] := by
  unfold readFrom
  rfl

theorem readFrom_of_isBlank {c : Char} (hc : Text.isBlank c = true) (i : Nat) (cs : List Char) :
    readFrom i (c :: cs) = readFrom (i + 1) cs := by
  rewrite [readFrom.eq_def]
  exact dif_pos hc

theorem readFrom_of_readLexeme {c : Char} {cs rest : List Char} {l : Lexeme} {i : Nat}
    (hc : Text.isBlank c = false) (h : readLexeme i c cs = .ok (l, rest)) :
    readFrom i (c :: cs) =
      (readFrom (i + (cs.length + 1 - rest.length)) rest).map (⟨l, i⟩ :: ·) := by
  rewrite [readFrom.eq_def]
  simp only [hc, Bool.false_eq_true, dite_false]
  split <;> simp_all

theorem readFrom_of_readLexeme_error {c : Char} {cs : List Char} {i : Nat} {e : Cause}
    (hc : Text.isBlank c = false) (h : readLexeme i c cs = .error e) :
    readFrom i (c :: cs) = .error e := by
  rewrite [readFrom.eq_def]
  simp only [hc, Bool.false_eq_true, dite_false]
  split <;> simp_all

theorem Spelling.readFrom {l : Lexeme} {x r : List Char} (h : Spelling l x r) (i : Nat) :
    readFrom i (x ++ r) = (readFrom (i + x.length) r).map (⟨l, i⟩ :: ·) := by
  obtain ⟨c, w, rfl, hc, hw⟩ := h.read
  rw [List.cons_append, readFrom_of_readLexeme hc (hw i)]
  have hlen : (w ++ r).length + 1 - r.length = (c :: w).length := by
    simp only [List.length_append, List.length_cons]
    omega
  rw [hlen]

namespace Spelled

variable {rest : List Char} {i : Nat} {cs : List Char} {ts : List Token}

theorem readFrom (h : Spelled rest i cs ts) :
    readFrom i (cs ++ rest) = (readFrom (i + cs.length) rest).map (ts ++ ·) := by
  induction h with
  | @nil i =>
    change Token.readFrom i rest = _
    cases Token.readFrom i rest <;> rfl
  | @blank i c cs ts hc _ ih =>
    rw [List.cons_append, readFrom_of_isBlank hc, ih, List.length_cons, Nat.add_right_comm,
      Nat.add_assoc]
  | @lexeme i x cs l ts hx _ ih =>
    rw [List.append_assoc, hx.readFrom, ih, List.length_append, ← Nat.add_assoc]
    cases Token.readFrom _ rest <;> rfl

theorem single {l : Lexeme} {x : List Char} (h : Spelling l x rest) :
    Spelled rest i x [⟨l, i⟩] := by
  have hs : Spelled rest i (x ++ []) [⟨l, i⟩] := .lexeme h .nil
  rwa [List.append_nil] at hs

theorem eq_nil (h : Spelled rest i [] ts) : ts = [] := by
  generalize hcs : [] = cs at h
  cases h with
  | nil => rfl
  | blank => cases hcs
  | lexeme hx => exact (hx.ne_nil (List.append_eq_nil_iff.1 hcs.symm).1).elim

theorem append {cs' : List Char} {us : List Token} (h : Spelled (cs' ++ rest) i cs ts)
    (h' : Spelled rest (i + cs.length) cs' us) : Spelled rest i (cs ++ cs') (ts ++ us) := by
  induction h with
  | nil => exact h'
  | blank hc _ ih =>
    refine .blank hc (ih ?_)
    rwa [Nat.add_right_comm, Nat.add_assoc]
  | lexeme hx _ ih =>
    rw [List.append_assoc]
    refine .lexeme (by rwa [List.append_assoc]) (ih ?_)
    rwa [Nat.add_assoc, ← List.length_append]

theorem shift (h : Spelled rest i cs ts) (k : Nat) :
    Spelled rest (i + k) cs (ts.map (Token.shift k)) := by
  induction h with
  | nil => exact .nil
  | blank hc _ ih => exact .blank hc (Nat.add_right_comm .. ▸ ih)
  | lexeme hx _ ih => exact .lexeme hx (Nat.add_right_comm .. ▸ ih)

theorem congr {rest' : List Char} (h : Spelled rest i cs ts) (hr : rest.head? = rest'.head?) :
    Spelled rest' i cs ts := by
  induction h with
  | nil => exact .nil
  | blank hc _ ih => exact .blank hc ih
  | lexeme hx _ ih => exact .lexeme (hx.congr (by simp only [List.head?_append, hr])) ih

/-- Unless its last character is a dash and a token of its own, a whole text is spelled alike in
front of a closing parenthesis. -/
theorem inside (h : Spelled [] i cs ts)
    (hd : ∀ t ∈ ts, t.position + 1 = i + cs.length → cs.getLast? ≠ some '-') (r : List Char) :
    Spelled (')' :: r) i cs ts := by
  induction h with
  | nil => exact .nil
  | @blank i c cs ts hc _ ih =>
    refine .blank hc (ih fun t ht hpos hlast ↦ hd t ht ?_ ?_)
    · rw [hpos, List.length_cons, Nat.add_right_comm, Nat.add_assoc]
    · rw [List.getLast?_cons, hlast]
      rfl
  | @lexeme i x cs l ts hx _ ih =>
    refine .lexeme ?_ (ih fun t ht hpos hlast ↦ hd t (List.mem_cons_of_mem _ ht) ?_ ?_)
    · cases cs with
      | nil =>
        refine hx.inside ?_ r
        rintro rfl
        exact hd _ List.mem_cons_self rfl rfl
      | cons d cs => exact hx.congr rfl
    · rw [hpos, List.length_append, Nat.add_assoc]
    · rw [List.getLast?_append, hlast]
      rfl

/-- A dash at the end that is a token of its own is a term, and what stands in front of it is
spelled alike in front of any dash. -/
theorem ends_in_dash {t : Token} (h : Spelled [] i cs ts) (ht : t ∈ ts)
    (hpos : t.position + 1 = i + cs.length) (hlast : cs.getLast? = some '-') :
    ∃ before us, cs = before ++ ['-'] ∧ ts = us ++ [⟨.clause (.term "-"), i + before.length⟩] ∧
      ∀ r, Spelled ('-' :: r) i before us := by
  induction h with
  | nil => cases ht
  | @blank i c cs ts hc h ih =>
    have hne : cs ≠ [] := by
      rintro rfl
      rw [h.eq_nil] at ht
      cases ht
    rw [List.getLast?_cons_of_ne_nil hne] at hlast
    obtain ⟨before, us, rfl, rfl, hb⟩ := ih ht
      (by rw [hpos, List.length_cons, Nat.add_right_comm, Nat.add_assoc]) hlast
    refine ⟨c :: before, us, rfl, ?_, fun r ↦ .blank hc (hb r)⟩
    rw [List.length_cons, Nat.add_right_comm, Nat.add_assoc]
  | @lexeme i x cs l ts hx h ih =>
    rcases List.mem_cons.1 ht with rfl | ht
    · -- The dash is all that is left.
      have hlen : x.length + cs.length = 1 := by
        rw [List.length_append] at hpos
        dsimp only at hpos
        omega
      have hx0 : 0 < x.length := List.length_pos_iff.2 hx.ne_nil
      obtain rfl : cs = [] := List.length_eq_zero_iff.1 (by omega)
      obtain ⟨d, rfl⟩ := List.length_eq_one_iff.1 (show x.length = 1 by omega)
      cases hlast
      rw [h.eq_nil, hx.eq_of_dash rfl]
      exact ⟨[], [], rfl, rfl, fun _ ↦ .nil⟩
    · have hne : cs ≠ [] := by
        rintro rfl
        rw [h.eq_nil] at ht
        cases ht
      rw [List.getLast?_append, List.getLast?_eq_some_getLast hne, Option.some_or,
        ← List.getLast?_eq_some_getLast hne] at hlast
      obtain ⟨before, us, rfl, rfl, hb⟩ := ih ht
        (by rw [hpos, List.length_append, Nat.add_assoc]) hlast
      refine ⟨x ++ before, ⟨l, i⟩ :: us, (List.append_assoc ..).symm, ?_, fun r ↦ ?_⟩
      · rw [List.length_append, Nat.add_assoc]
        rfl
      · exact .lexeme (hx.congr (by simp [List.head?_append])) (hb r)

end Spelled

/-- A text is read blank by blank and lexeme by lexeme, up to its end or to a lexeme that is
broken. -/
@[elab_as_elim]
theorem reading_induction {motive : Nat → List Char → Prop} (nil : ∀ i, motive i [])
    (blank : ∀ i c cs, Text.isBlank c = true → motive (i + 1) cs → motive i (c :: cs))
    (broken : ∀ i c cs e, Text.isBlank c = false → readLexeme i c cs = .error e →
      motive i (c :: cs))
    (lexeme : ∀ i l x cs, Spelling l x cs → motive (i + x.length) cs → motive i (x ++ cs))
    (i : Nat) (cs : List Char) : motive i cs := by
  fun_induction readFrom i cs with
  | case1 => exact nil _
  | case2 i c cs hc ih => exact blank i c cs hc ih
  | case3 i c cs hc e he => exact broken i c cs e (by simpa using hc) he
  | case4 i c cs hc l r hl _ ih =>
    obtain ⟨x, hx, hs⟩ := spelling_of_readLexeme (by simpa using hc) hl
    have hlen : cs.length + 1 - r.length = x.length := by
      have := congrArg List.length hx
      simp only [List.length_cons, List.length_append] at this
      omega
    rw [hlen] at ih
    exact hx ▸ lexeme i l x r hs ih

theorem spelled_of_readFrom {i : Nat} {cs : List Char} {ts : List Token}
    (h : readFrom i cs = .ok ts) : Spelled [] i cs ts := by
  induction i, cs using reading_induction generalizing ts with
  | nil i =>
    rw [readFrom_nil] at h
    cases h
    exact .nil
  | blank i c cs hc ih =>
    rw [readFrom_of_isBlank hc] at h
    exact .blank hc (ih h)
  | broken i c cs e hc he =>
    rw [readFrom_of_readLexeme_error hc he] at h
    cases h
  | lexeme i l x cs hx ih =>
    rw [hx.readFrom] at h
    cases hr : readFrom (i + x.length) cs with
    | error e =>
      rw [hr] at h
      cases h
    | ok us =>
      rw [hr] at h
      cases h
      exact .lexeme (by rwa [List.append_nil]) (ih hr)

theorem readFrom_eq_ok_iff {i : Nat} {cs : List Char} {ts : List Token} :
    readFrom i cs = .ok ts ↔ Spelled [] i cs ts := by
  refine ⟨spelled_of_readFrom, fun h ↦ ?_⟩
  have hr := h.readFrom
  rw [List.append_nil, readFrom_nil] at hr
  exact hr.trans (congrArg Except.ok (List.append_nil ts))

def endsInDash (query : String) : Bool :=
  query.toList.getLast? == some '-' &&
    match read query with
    | .error _ => false
    | .ok ts => ts.any fun t ↦ t.position + 1 == query.length

end Token

end GroupSearch
