import GroupSearch.Proofs.Grammar

namespace GroupSearch

open Query

/-- What a scan has seen of a query: where the parentheses stand that are still open, the innermost
first, and whether the next token must begin an operand. -/
structure Reading where
  opened : List Nat
  wanting : Bool
  deriving DecidableEq, Repr

namespace Reading

def start : Reading := ⟨[], true⟩

def step (r : Reading) (t : Token) : Option Reading :=
  match t.lexeme, r.wanting, r.opened with
  | .openParen, _, opened => some ⟨t.position :: opened, true⟩
  | .not, _, opened => some ⟨opened, true⟩
  | .clause _, _, opened => some ⟨opened, false⟩
  | .and, false, opened => some ⟨opened, true⟩
  | .or, false, opened => some ⟨opened, true⟩
  | .closeParen, false, _ :: opened => some ⟨opened, false⟩
  | _, _, _ => none

def run (r : Reading) (ts : List Token) : Option Reading := ts.foldlM step r

@[simp] theorem run_nil (r : Reading) : r.run [] = some r := rfl

@[simp] theorem run_cons (r : Reading) (t : Token) (ts : List Token) :
    r.run (t :: ts) = (r.step t).bind (run · ts) := rfl

theorem run_append (r : Reading) (ts us : List Token) :
    r.run (ts ++ us) = (r.run ts).bind (run · us) := by
  simp only [run, List.foldlM_append]
  rfl

theorem wanting_iff_of_step {r r' : Reading} {t : Token} (h : r.step t = some r') :
    r'.wanting = true ↔ t.lexeme ∈ [.openParen, .and, .or, .not] := by
  obtain ⟨l, i⟩ := t
  obtain ⟨opened, wanting⟩ := r
  cases l with
  | openParen | not => cases h; simp
  | clause cl => cases h; simp
  | and | or => cases wanting <;> cases h; simp
  | closeParen => cases wanting <;> cases opened <;> cases h; simp

theorem stops_at {r : Reading} {t : Token} (h : r.step t = none) :
    t.lexeme ∈ [.and, .or, .closeParen] := by
  obtain ⟨l, i⟩ := t
  cases l with
  | openParen | not | clause cl => cases h
  | and | or | closeParen => simp

end Reading

namespace Grammar

variable {α : Type}

mutual

theorem Disjunction.run {ts : List Token} {vs : List (Formula α)} {p : Formula α}
    (h : Disjunction ts vs p) (opened : List Nat) (wanting : Bool) :
    Reading.run ⟨opened, wanting⟩ ts = some ⟨opened, false⟩ := by
  match h with
  | .single h => exact h.run opened wanting
  | .several h hs => simp [Reading.run_append, h.run opened wanting, hs.run opened]

theorem Disjuncts.run {ts : List Token} {vs ps : List (Formula α)}
    (h : Disjuncts ts vs ps) (opened : List Nat) :
    Reading.run ⟨opened, false⟩ ts = some ⟨opened, false⟩ := by
  match h with
  | .nil => rfl
  | .cons h hs => simp [Reading.step, Reading.run_append, h.run opened true, hs.run opened]

theorem Conjunction.run {ts : List Token} {vs : List (Formula α)} {p : Formula α}
    (h : Conjunction ts vs p) (opened : List Nat) (wanting : Bool) :
    Reading.run ⟨opened, wanting⟩ ts = some ⟨opened, false⟩ := by
  match h with
  | .single h => exact h.run opened wanting
  | .several h hs => simp [Reading.run_append, h.run opened wanting, hs.run opened]

theorem Conjuncts.run {ts : List Token} {vs ps : List (Formula α)}
    (h : Conjuncts ts vs ps) (opened : List Nat) :
    Reading.run ⟨opened, false⟩ ts = some ⟨opened, false⟩ := by
  match h with
  | .nil => rfl
  | .and h hs => simp [Reading.step, Reading.run_append, h.run opened true, hs.run opened]
  | .next h hs => simp [Reading.run_append, h.run opened false, hs.run opened]

theorem Negation.run {ts : List Token} {vs : List (Formula α)} {p : Formula α}
    (h : Negation ts vs p) (opened : List Nat) (wanting : Bool) :
    Reading.run ⟨opened, wanting⟩ ts = some ⟨opened, false⟩ := by
  match h with
  | .not h => simp [Reading.step, h.run opened true]
  | .primary h => exact h.run opened wanting

theorem Primary.run {ts : List Token} {vs : List (Formula α)} {p : Formula α}
    (h : Primary ts vs p) (opened : List Nat) (wanting : Bool) :
    Reading.run ⟨opened, wanting⟩ ts = some ⟨opened, false⟩ := by
  match h with
  | .group h => simp [Reading.step, Reading.run_append, h.run]
  | .clause => simp [Reading.step]

end

end Grammar

end GroupSearch
