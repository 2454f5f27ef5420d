import GroupSearch.Failure
import GroupSearch.Query.Operand

namespace GroupSearch

/-- The parts of a query that ask something of a group: an operator with its value, or a bare
search term. -/
inductive Clause
  | operator (keyword value : String)
  | term (value : String)
  deriving DecidableEq, Repr

inductive Lexeme
  | openParen
  | closeParen
  | and
  | or
  | not
  | clause (c : Clause)
  deriving DecidableEq, Repr

def Clause.symbol : Clause → String
  | operator _ value => if value.isEmpty then "FIELD" else value
  | term value => if value.isEmpty then "TERM" else value

def Lexeme.symbol : Lexeme → String
  | openParen => "("
  | closeParen => ")"
  | and => "AND"
  | or => "OR"
  | not => "NOT"
  | clause c => c.symbol

structure Token where
  lexeme : Lexeme
  position : Nat
  deriving DecidableEq, Repr

namespace Token

open Operand

def isKeywordChar (c : Char) : Bool := c.isAlpha || c == '_'

/-- Parts a word at the colon behind a keyword; the keyword is read without regard to case. -/
def splitKeyword (word : List Char) : Option (List Char × List Char) :=
  match word.takeWhile isKeywordChar, word.dropWhile isKeywordChar with
  | c :: k, ':' :: value => some ((c :: k).map Char.toLower, value)
  | _, _ => none

def ofWord (word : List Char) : Lexeme :=
  if word = ['A', 'N', 'D'] then .and
  else if word = ['O', 'R'] then .or
  else if word = ['N', 'O', 'T'] then .not
  else .clause (.term (String.ofList word))

def quotedAt (position : Nat) (cs : List Char) : Except Cause (String × List Char) :=
  match readQuoted cs with
  | some (value, rest) => .ok (String.ofList value, rest)
  | none => .error (.unterminatedQuote position)

def readWord (position : Nat) (word rest : List Char) : Except Cause (Lexeme × List Char) :=
  match splitKeyword word with
  | none => .ok (ofWord word, rest)
  | some (k, v :: vs) =>
    .ok (.clause (.operator (String.ofList k) (String.ofList (v :: vs))), rest)
  | some (k, []) =>
    match rest with
    | '"' :: r =>
      (quotedAt (position + word.length) r).map fun v ↦
        (.clause (.operator (String.ofList k) v.1), v.2)
    | '(' :: _ => .error (.groupedValue (String.ofList k) position)
    | _ => .ok (.clause (.operator (String.ofList k) ""), rest)

def negates : List Char → Bool
  | [] => false
  | c :: _ => !Text.isBlank c

def readLexeme (position : Nat) (c : Char) (cs : List Char) : Except Cause (Lexeme × List Char) :=
  if c = '(' then .ok (.openParen, cs)
  else if c = ')' then .ok (.closeParen, cs)
  else if c = '"' then (quotedAt position cs).map fun v ↦ (.clause (.term v.1), v.2)
  else if c = '-' ∧ negates cs = true then .ok (.not, cs)
  else readWord position ((c :: cs).takeWhile isWordChar) ((c :: cs).dropWhile isWordChar)

theorem quotedAt_length {p : Nat} {cs : List Char} {v : String × List Char}
    (h : quotedAt p cs = .ok v) : v.2.length < cs.length := by
  unfold quotedAt at h
  split at h <;> cases h
  exact readQuoted_length ‹_›

theorem readWord_length {p : Nat} {word rest : List Char} {v : Lexeme × List Char}
    (h : readWord p word rest = .ok v) : v.2.length ≤ rest.length := by
  unfold readWord at h
  split at h
  · cases h; exact Nat.le_refl _
  · cases h; exact Nat.le_refl _
  · split at h
    · cases hq : quotedAt _ _ with
      | error e => rw [hq] at h; cases h
      | ok w =>
        rw [hq] at h
        cases h
        have := quotedAt_length hq
        simp only [List.length_cons]
        omega
    · cases h
    · cases h; exact Nat.le_refl _

theorem readLexeme_length {p : Nat} {c : Char} {cs : List Char} {v : Lexeme × List Char}
    (hc : Text.isBlank c = false) (h : readLexeme p c cs = .ok v) :
    v.2.length ≤ cs.length := by
  unfold readLexeme at h
  split at h
  · cases h; exact Nat.le_refl _
  split at h
  · cases h; exact Nat.le_refl _
  split at h
  · cases hq : quotedAt p cs with
    | error e => rw [hq] at h; cases h
    | ok w =>
      rw [hq] at h
      cases h
      exact Nat.le_of_lt (quotedAt_length hq)
  split at h
  · cases h; exact Nat.le_refl _
  · have hw : isWordChar c = true := by simp_all [isWordChar]
    refine Nat.le_trans (readWord_length h) ?_
    rw [List.dropWhile_cons_of_pos hw]
    exact (List.dropWhile_sublist _).length_le

def readFrom (position : Nat) : List Char → Except Cause (List Token)
  | [] => .ok []
  | c :: cs =>
    if hc : Text.isBlank c = true then readFrom (position + 1) cs
    else
      match h : readLexeme position c cs with
      | .error e => .error e
      | .ok (lexeme, rest) =>
        have : rest.length ≤ cs.length := readLexeme_length (by simpa using hc) h
        (readFrom (position + (cs.length + 1 - rest.length)) rest).map (⟨lexeme, position⟩ :: ·)
termination_by cs => cs.length
decreasing_by all_goals (simp only [List.length_cons]; omega)

def read (query : String) : Except Cause (List Token) := readFrom 0 query.toList

end Token

end GroupSearch
