import GroupSearch.Proofs.Spelling

namespace GroupSearch

namespace Operand

theorem encode_of_isPlain {v : List Char} (h : isPlain v = true) : encode v = v := if_pos h

theorem isWordChar_of_isPlain {v : List Char} (h : isPlain v = true) :
    ∀ c ∈ v, isWordChar c = true := by
  simp only [isPlain, Bool.and_eq_true, List.all_eq_true] at h
  exact fun c hc ↦ (h.2 c hc).1

theorem ne_nil_of_isPlain {v : List Char} (h : isPlain v = true) : v ≠ [] := by
  rintro rfl
  cases h

theorem quotes_escape (v : List Char) : Quotes (escape v ++ ['"']) v := by
  obtain ⟨w, hw, hq⟩ := quotes_of_readQuoted (readQuoted_escape v [])
  rw [List.append_nil] at hw
  exact hw ▸ hq

end Operand

namespace Token

open Operand

structure IsKeyword (k : List Char) : Prop where
  ne_nil : k ≠ []
  letters : ∀ c ∈ k, isKeywordChar c = true
  lower : ∀ c ∈ k, c.toLower = c

namespace IsKeyword

variable {k : List Char}

theorem isName (hk : IsKeyword k) : IsName k := ⟨hk.ne_nil, hk.letters⟩

theorem map_toLower (hk : IsKeyword k) : k.map Char.toLower = k :=
  (List.map_congr_left hk.lower).trans k.map_id

theorem spelling {v r : List Char} (hk : IsKeyword k) (hr : EndsWord r) :
    Spelling (.clause (.operator (String.ofList k) (String.ofList v)))
      (k ++ ':' :: encode v) r := by
  cases hv : isPlain v with
  | true =>
    have h := Spelling.value hk.isName (ne_nil_of_isPlain hv) (isWordChar_of_isPlain hv) hr
    rw [hk.map_toLower] at h
    rwa [encode_of_isPlain hv]
  | false =>
    have h := Spelling.quotedValue (r := r) hk.isName (quotes_escape v)
    have he : encode v = '"' :: (escape v ++ ['"']) := by simp [encode, hv]
    rwa [hk.map_toLower, ← he] at h

/-- A keyword with a value that needs no quotes is a query of one token. -/
theorem read {v : List Char} (hk : IsKeyword k) (hv : isPlain v = true) :
    Token.read (String.ofList (k ++ ':' :: v)) =
      .ok [⟨.clause (.operator (String.ofList k) (String.ofList v)), 0⟩] := by
  have h := (hk.spelling (v := v) endsWord_nil).readFrom 0
  rw [encode_of_isPlain hv, List.append_nil, readFrom_nil] at h
  rw [Token.read, String.toList_ofList, h]
  rfl

end IsKeyword

/-- The text in front of `rest` is read as the lexemes, wherever it stands. -/
def Scans (cs : List Char) (ls : List Lexeme) (rest : List Char) : Prop :=
  ∀ i, ∃ ts j, ts.map Token.lexeme = ls ∧ readFrom i cs = (readFrom j rest).map (ts ++ ·)

namespace Scans

variable {cs mid rest : List Char} {ls ls' : List Lexeme}

theorem refl (cs : List Char) : Scans cs [] cs := by
  intro i
  refine ⟨[], i, rfl, ?_⟩
  cases readFrom i cs <;> rfl

theorem trans (h : Scans cs ls mid) (h' : Scans mid ls' rest) : Scans cs (ls ++ ls') rest := by
  intro i
  obtain ⟨ts, j, rfl, hts⟩ := h i
  obtain ⟨us, k, rfl, hus⟩ := h' j
  refine ⟨ts ++ us, k, List.map_append, ?_⟩
  rw [hts, hus]
  cases readFrom k rest with
  | error e => rfl
  | ok vs => exact congrArg Except.ok (List.append_assoc ts us vs).symm

theorem blank {c : Char} (hc : Text.isBlank c = true) (h : Scans cs ls rest) :
    Scans (c :: cs) ls rest := by
  intro i
  rw [readFrom_of_isBlank hc]
  exact h (i + 1)

theorem of_spelling {l : Lexeme} {x : List Char} (h : Spelling l x cs) : Scans (x ++ cs) [l] cs :=
  fun i ↦ ⟨[⟨l, i⟩], _, rfl, h.readFrom i⟩

theorem openParen (cs : List Char) : Scans ('(' :: cs) [.openParen] cs := of_spelling .openParen

theorem closeParen (cs : List Char) : Scans (')' :: cs) [.closeParen] cs := of_spelling .closeParen

theorem dash (h : negates cs = true) : Scans ('-' :: cs) [.not] cs := of_spelling (.dash h)

theorem and (h : EndsWord cs) : Scans ('A' :: 'N' :: 'D' :: cs) [.and] cs := of_spelling (.and h)

theorem or (h : EndsWord cs) : Scans ('O' :: 'R' :: cs) [.or] cs := of_spelling (.or h)

theorem operator {k v : List Char} (hk : IsKeyword k) (h : EndsWord cs) :
    Scans (k ++ ':' :: (encode v ++ cs))
      [.clause (.operator (String.ofList k) (String.ofList v))] cs := by
  have hs := of_spelling (hk.spelling (v := v) h)
  rwa [List.append_assoc, List.cons_append] at hs

end Scans

theorem Scans.read {cs : List Char} {ls : List Lexeme} (h : Scans cs ls []) (i : Nat) :
    ∃ ts, ts.map Token.lexeme = ls ∧ readFrom i cs = .ok ts := by
  obtain ⟨ts, j, hts, hr⟩ := h i
  rw [readFrom_nil] at hr
  exact ⟨ts, hts, hr.trans (congrArg Except.ok (List.append_nil ts))⟩

end Token

end GroupSearch
