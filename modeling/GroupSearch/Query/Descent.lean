import GroupSearch.Formula
import GroupSearch.Query.Token

namespace GroupSearch

namespace Query

abbrev Shorter (ts : List Token) := { r : List Token // r.length < ts.length }

abbrev NoLonger (ts : List Token) := { r : List Token // r.length ≤ ts.length }

def unexpected (t : Token) : Cause := .unexpected t.lexeme.symbol t.position

def endsConjunction : List Token → Bool
  | [] => true
  | t :: _ => t.lexeme = .or || t.lexeme = .closeParen

def dropAnd : List Token → List Token
  | [] => []
  | t :: ts => if t.lexeme = .and then ts else t :: ts

theorem dropAnd_length (ts : List Token) : (dropAnd ts).length ≤ ts.length := by
  cases ts with
  | nil => exact Nat.le_refl _
  | cons t ts => simp only [dropAnd]; split <;> simp

variable {ε σ α : Type} (build : Clause → ExceptT ε (StateM σ) (Formula α)) (fault : Cause → ε)

mutual

def disjunction (ts : List Token) : ExceptT ε (StateM σ) (Formula α × Shorter ts) := do
  let (p, ⟨r, h⟩) ← conjunction ts
  let (ps, ⟨r', h'⟩) ← disjuncts r
  return (.disj p ps, ⟨r', Nat.lt_of_le_of_lt h' h⟩)
termination_by 4 * ts.length + 3

def disjuncts (ts : List Token) : ExceptT ε (StateM σ) (List (Formula α) × NoLonger ts) :=
  match ts with
  | ⟨.or, _⟩ :: ts => do
    let (p, ⟨r, h⟩) ← conjunction ts
    let (ps, ⟨r', h'⟩) ← disjuncts r
    return (p :: ps, ⟨r', Nat.le_succ_of_le (Nat.le_trans h' (Nat.le_of_lt h))⟩)
  | ts => return ([], ⟨ts, Nat.le_refl _⟩)
termination_by 4 * ts.length + 2

def conjunction (ts : List Token) : ExceptT ε (StateM σ) (Formula α × Shorter ts) := do
  let (p, ⟨r, h⟩) ← negation ts
  let (ps, ⟨r', h'⟩) ← conjuncts r
  return (.conj p ps, ⟨r', Nat.lt_of_le_of_lt h' h⟩)
termination_by 4 * ts.length + 2

def conjuncts (ts : List Token) : ExceptT ε (StateM σ) (List (Formula α) × NoLonger ts) :=
  if endsConjunction ts then return ([], ⟨ts, Nat.le_refl _⟩)
  else do
    have hle := dropAnd_length ts
    let (p, ⟨r, h⟩) ← negation (dropAnd ts)
    let (ps, ⟨r', h'⟩) ← conjuncts r
    return (p :: ps, ⟨r', Nat.le_trans h' (Nat.le_trans (Nat.le_of_lt h) hle)⟩)
termination_by 4 * ts.length + 2

def negation (ts : List Token) : ExceptT ε (StateM σ) (Formula α × Shorter ts) :=
  match ts with
  | ⟨.not, _⟩ :: ts => do
    let (p, ⟨r, h⟩) ← negation ts
    return (.not p, ⟨r, Nat.lt_succ_of_lt h⟩)
  | ts => primary ts
termination_by 4 * ts.length + 1

def primary (ts : List Token) : ExceptT ε (StateM σ) (Formula α × Shorter ts) :=
  match ts with
  | [] => throw (fault .unexpectedEnd)
  | ⟨.clause cl, _⟩ :: ts => do
    let p ← build cl
    return (p, ⟨ts, Nat.lt_succ_self _⟩)
  | ⟨.openParen, i⟩ :: ts => do
    match ← disjunction ts with
    | (p, ⟨⟨.closeParen, _⟩ :: r, h⟩) => return (p, ⟨r, Nat.lt_succ_of_lt (Nat.lt_of_succ_lt h)⟩)
    | _ => throw (fault (.unclosed i))
  | t :: _ => throw (fault (unexpected t))
termination_by 4 * ts.length + 0

end

def ofTokens (ts : List Token) : ExceptT ε (StateM σ) (Formula α) := do
  match ← disjunction build fault ts with
  | (p, ⟨[], _⟩) => return p
  | (_, ⟨t :: _, _⟩) => throw (fault (unexpected t))

end Query

end GroupSearch
