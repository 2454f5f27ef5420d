import GroupSearch.Proofs.Continuation
import GroupSearch.Proofs.Scanning

namespace GroupSearch.Token

open Operand

theorem isKeywordChar_of_isLower {c : Char} (h : c.isLower = true) : isKeywordChar c = true := by
  change (c.isUpper || c.isLower || c == '_') = true
  rw [h, Bool.or_true, Bool.true_or]

theorem toLower_of_isLower {c : Char} (h : c.isLower = true) : c.toLower = c := by
  obtain ⟨hlow, -⟩ := Bool.and_eq_true_iff.1 h
  unfold Char.toLower
  split
  · next hc =>
    have ha : 97 ≤ c.val.toNat := UInt32.le_iff_toNat_le.1 (of_decide_eq_true hlow)
    have hz : c.val.toNat ≤ 90 := UInt32.le_iff_toNat_le.1 hc.2
    omega
  · rfl

theorem isKeyword_of_letters {k : List Char} (hne : k ≠ [])
    (hk : ∀ c ∈ k, c.isLower = true ∨ c = '_') : IsKeyword k where
  ne_nil := hne
  letters c hc := by
    rcases hk c hc with h | h
    · exact isKeywordChar_of_isLower h
    · subst h
      rfl
  lower c hc := by
    rcases hk c hc with h | h
    · exact toLower_of_isLower h
    · subst h
      rfl

theorem endsWord_of_head {r : List Char}
    (hr : ∀ c ∈ r.head?, Text.isBlank c = true ∨ c ∈ ['(', ')', '"']) : EndsWord r := by
  intro c hc
  rcases hr c hc with h | h
  · simp [isWordChar, h]
  · simp only [List.mem_cons, List.not_mem_nil, or_false] at h
    rcases h with h | h | h <;> subst h <;> rfl

/-- A keyword with a written value is one token, whatever the value is, if nothing stands behind it
or a blank, a parenthesis or a double quote does. What stands there is read as it is alone, with
every position that much further on, and fails as it does alone. -/
theorem read_operator_append {k r : String} (hne : k ≠ "")
    (hk : ∀ c ∈ k.toList, c.isLower = true ∨ c = '_') (v : String)
    (hr : ∀ c ∈ r.toList.head?, Text.isBlank c = true ∨ c ∈ ['(', ')', '"']) :
    let written := k ++ ":" ++ quote v
    read (written ++ r) = match read r with
      | .ok ts => .ok (⟨.clause (.operator k v), 0⟩ :: ts.map (shift written.length))
      | .error cause => .error (cause.shift written.length) := by
  intro written
  have hkey : IsKeyword k.toList := isKeyword_of_letters (mt String.toList_eq_nil_iff.1 hne) hk
  have htext : written.toList = k.toList ++ ':' :: encode v.toList := by
    simp [written, quote]
  have hspelling := hkey.spelling (v := v.toList) (endsWord_of_head hr)
  rw [String.ofList_toList, String.ofList_toList, ← htext] at hspelling
  have hfirst : read (written ++ r) =
      (readFrom written.length r.toList).map (⟨.clause (.operator k v), 0⟩ :: ·) := by
    rw [read, String.toList_append, hspelling.readFrom, Nat.zero_add, String.length_toList]
  have hrest : readFrom written.length r.toList = shifted written.length (read r) := by
    rw [read, ← readFrom_shift, Nat.zero_add]
  rw [hfirst, hrest]
  cases read r <;> rfl

/-- A bare value with a backslash in front of an open quote, and a quoted one that looks like an
operator of its own. -/
theorem read_operator_append_backslash :
    (∀ c ∈ "is_a".toList, c.isLower = true ∨ c = '_') ∧
      (∀ c ∈ "\"- x".toList.head?, Text.isBlank c = true ∨ c ∈ ['(', ')', '"']) ∧
      (∀ c ∈ "(\"b\" -y".toList.head?, Text.isBlank c = true ∨ c ∈ ['(', ')', '"']) ∧
      quote "-\\" = "-\\" ∧ quote "\\:\"" = "\"\\\\:\\\"\"" ∧
      read ("is_a" ++ ":" ++ quote "-\\" ++ "\"- x") = .error (.unterminatedQuote 7) ∧
      read ("is_a" ++ ":" ++ quote "\\:\"" ++ "(\"b\" -y") =
        .ok [⟨.clause (.operator "is_a" "\\:\""), 0⟩, ⟨.openParen, 12⟩, ⟨.clause (.term "b"), 13⟩,
          ⟨.not, 17⟩, ⟨.clause (.term "y"), 18⟩] := by
  have hk : ∀ c ∈ "is_a".toList, c.isLower = true ∨ c = '_' := by simp
  have hopen : ∀ c ∈ "\"- x".toList.head?, Text.isBlank c = true ∨ c ∈ ['(', ')', '"'] := by
    intro c hc
    have hquote : c = '"' := by simpa [eq_comm] using hc
    simp [hquote]
  have hgroup : ∀ c ∈ "(\"b\" -y".toList.head?, Text.isBlank c = true ∨ c ∈ ['(', ')', '"'] := by
    intro c hc
    have hparen : c = '(' := by simpa [eq_comm] using hc
    simp [hparen]
  have hfail : read "\"- x" = .error (.unterminatedQuote 0) := by decide +kernel
  have hread : read "(\"b\" -y" = .ok [⟨.openParen, 0⟩, ⟨.clause (.term "b"), 1⟩, ⟨.not, 5⟩,
      ⟨.clause (.term "y"), 6⟩] := by decide +kernel
  refine ⟨hk, hopen, hgroup, by decide +kernel, by decide +kernel, ?_, ?_⟩
  · rw [read_operator_append (by decide) hk "-\\" hopen, hfail]
    decide +kernel
  · rw [read_operator_append (by decide) hk "\\:\"" hgroup, hread]
    decide +kernel

end GroupSearch.Token
