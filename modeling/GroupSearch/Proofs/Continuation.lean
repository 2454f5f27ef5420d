import GroupSearch.Proofs.Spelling
import Mathlib.Control.Monad.Basic

namespace GroupSearch

def Cause.shift (k : Nat) : Cause → Cause
  | unterminatedQuote p => unterminatedQuote (p + k)
  | groupedValue keyword p => groupedValue keyword (p + k)
  | unexpected symbol p => unexpected symbol (p + k)
  | unclosed p => unclosed (p + k)
  | cause => cause

namespace Token

open Operand

variable {i : Nat} {cs : List Char}

def shifted (k : Nat) : Except Cause (List Token) → Except Cause (List Token)
  | .ok ts => .ok (ts.map (shift k))
  | .error cause => .error (cause.shift k)

theorem quotedAt_shift (i k : Nat) (cs : List Char) :
    quotedAt (i + k) cs = (quotedAt i cs).mapError (Cause.shift k) := by
  unfold quotedAt
  cases readQuoted cs <;> rfl

theorem readWord_shift (i k : Nat) (w r : List Char) :
    readWord (i + k) w r = (readWord i w r).mapError (Cause.shift k) := by
  unfold readWord
  split
  · rfl
  · rfl
  · split
    · rw [Nat.add_right_comm, quotedAt_shift]
      cases quotedAt _ _ <;> rfl
    · rfl
    · rfl

theorem readLexeme_shift (i k : Nat) (c : Char) (cs : List Char) :
    readLexeme (i + k) c cs = (readLexeme i c cs).mapError (Cause.shift k) := by
  unfold readLexeme
  split
  · rfl
  split
  · rfl
  split
  · rw [quotedAt_shift]
    cases quotedAt _ _ <;> rfl
  split
  · rfl
  · exact readWord_shift ..

theorem readFrom_shift (i k : Nat) (cs : List Char) :
    readFrom (i + k) cs = shifted k (readFrom i cs) := by
  induction i, cs using reading_induction with
  | nil i =>
    rw [readFrom_nil, readFrom_nil]
    rfl
  | blank i c cs hc ih =>
    rw [readFrom_of_isBlank hc, readFrom_of_isBlank hc, Nat.add_right_comm, ih]
  | broken i c cs e hc he =>
    have hs : readLexeme (i + k) c cs = .error (e.shift k) := by
      rw [readLexeme_shift, he]
      rfl
    rw [readFrom_of_readLexeme_error hc hs, readFrom_of_readLexeme_error hc he]
    rfl
  | lexeme i l x cs hx ih =>
    rw [hx.readFrom, hx.readFrom, Nat.add_right_comm, ih]
    cases readFrom (i + x.length) cs <;> rfl

theorem readFrom_blanks {w : List Char} (hw : ∀ c ∈ w, Text.isBlank c = true) (i : Nat)
    (cs : List Char) : readFrom i (w ++ cs) = readFrom (i + w.length) cs := by
  induction w generalizing i with
  | nil => rfl
  | cons c w ih =>
    obtain ⟨hc, hw⟩ := List.forall_mem_cons.1 hw
    rw [List.cons_append, readFrom_of_isBlank hc, ih hw, List.length_cons, Nat.add_right_comm,
      Nat.add_assoc]

/-- A blank ends every lexeme like the end of the text. -/
theorem Spelling.before_blank {l : Lexeme} {x : List Char} (h : Spelling l x []) {c : Char}
    (hc : Text.isBlank c = true) (r : List Char) : Spelling l x (c :: r) := by
  have hr : EndsWord (c :: r) := endsWord_cons r (by simp [isWordChar, hc])
  rcases h.extend hr with hs | ⟨-, hn⟩ | ⟨k, -, -, hq⟩
  · exact hs
  · simp [negates, hc] at hn
  · rw [List.head?_cons, Option.some_inj, Option.some_inj] at hq
    rcases hq with rfl | rfl <;> cases hc

theorem Spelled.before_blank {ts : List Token} (h : Spelled [] i cs ts) {c : Char}
    (hc : Text.isBlank c = true) (r : List Char) : Spelled (c :: r) i cs ts := by
  induction h with
  | nil => exact .nil
  | blank hb _ ih => exact .blank hb ih
  | @lexeme i x cs l ts hx _ ih =>
    refine .lexeme ?_ ih
    cases cs with
    | nil => exact hx.before_blank hc r
    | cons d cs => exact hx.congr rfl

/-- Of a text that goes on behind blanks the part in front of them is read as it is alone, and the
part behind them too, with every position that much further on. -/
theorem read_append_of_blanks {s w : String} {ts : List Token} (hs : read s = .ok ts)
    (hne : w ≠ "") (hw : ∀ c ∈ w.toList, Text.isBlank c = true) (t : String) :
    read (s ++ w ++ t) = match read t with
      | .ok us => .ok (ts ++ us.map (shift (s.length + w.length)))
      | .error cause => .error (cause.shift (s.length + w.length)) := by
  have hspelled : Spelled (w.toList ++ t.toList) 0 s.toList ts := by
    cases hcs : w.toList with
    | nil => exact (hne (String.toList_eq_nil_iff.1 hcs)).elim
    | cons c cs =>
      rw [hcs] at hw
      exact (spelled_of_readFrom hs).before_blank (hw c List.mem_cons_self) (cs ++ t.toList)
  have ht : readFrom (s.length + w.length) t.toList = shifted (s.length + w.length) (read t) := by
    rw [read, ← readFrom_shift, Nat.zero_add]
  unfold read at ht ⊢
  rw [String.toList_append, String.toList_append, List.append_assoc, hspelled.readFrom,
    readFrom_blanks hw, Nat.zero_add, String.length_toList, String.length_toList, ht]
  cases readFrom 0 t.toList <;> rfl

/-- A keyword does not reach over a wide space for its value. -/
theorem read_append_of_blanks_keyword :
    let before : Token := ⟨.clause (.operator "name" ""), 0⟩
    read "name:" = .ok [before] ∧ "\u2003" ≠ "" ∧
      (∀ c ∈ "\u2003".toList, Text.isBlank c = true) ∧
      read ("name:" ++ "\u2003" ++ "\"x\" -") =
        .ok [before, ⟨.clause (.term "x"), 6⟩, ⟨.clause (.term "-"), 10⟩] ∧
      read ("name:" ++ "\u2003" ++ "-\"x") = .error (.unterminatedQuote 7) := by
  intro before
  have hs : read "name:" = .ok [before] := by decide +kernel
  have hne : "\u2003" ≠ "" := by decide
  have hw : ∀ c ∈ "\u2003".toList, Text.isBlank c = true := by
    intro c hc
    obtain rfl : c = '\u2003' := by simpa using hc
    rfl
  have hread : read "\"x\" -" = .ok [⟨.clause (.term "x"), 0⟩, ⟨.clause (.term "-"), 4⟩] := by
    decide +kernel
  have hfail : read "-\"x" = .error (.unterminatedQuote 1) := by decide +kernel
  refine ⟨hs, hne, hw, ?_, ?_⟩
  · rw [read_append_of_blanks hs hne hw, hread]
    rfl
  · rw [read_append_of_blanks hs hne hw, hfail]
    rfl

end Token

end GroupSearch
