namespace GroupSearch

inductive Formula (α : Type)
  | leaf (a : α)
  | all (first : Formula α) (rest : List (Formula α))
  | any (first : Formula α) (rest : List (Formula α))
  | not (operand : Formula α)
  deriving Repr

inductive Connective
  | and
  | or
  deriving DecidableEq, Repr

structure NoOperands where
  connective : Connective
  deriving DecidableEq, Repr

def NoOperands.message : NoOperands → String
  | ⟨.and⟩ => "AND requires at least one operand"
  | ⟨.or⟩ => "OR requires at least one operand"

namespace Formula

variable {α : Type}

/-- A conjunction or disjunction, even of a single operand. -/
def connect (c : Connective) : List (Formula α) → Except NoOperands (Formula α)
  | [] => .error ⟨c⟩
  | p :: ps => .ok (match c with
    | .and => all p ps
    | .or => any p ps)

def conj (first : Formula α) : List (Formula α) → Formula α
  | [] => first
  | p :: ps => .all first (p :: ps)

def disj (first : Formula α) : List (Formula α) → Formula α
  | [] => first
  | p :: ps => .any first (p :: ps)

/-- A conjunction or disjunction, where a single operand stands for itself. -/
def combine (c : Connective) : List (Formula α) → Except NoOperands (Formula α)
  | [] => .error ⟨c⟩
  | p :: ps => .ok (match c with
    | .and => conj p ps
    | .or => disj p ps)

def operands : Formula α → List (Formula α)
  | leaf _ => []
  | all p ps => p :: ps
  | any p ps => p :: ps
  | not p => [p]

mutual

def walk : Formula α → List (Formula α)
  | leaf a => [leaf a]
  | all p ps => all p ps :: (walk p ++ walkAll ps)
  | any p ps => any p ps :: (walk p ++ walkAll ps)
  | not p => not p :: walk p

def walkAll : List (Formula α) → List (Formula α)
  | [] => []
  | p :: ps => walk p ++ walkAll ps

end

mutual

def leaves : Formula α → List α
  | leaf a => [a]
  | all p ps => leaves p ++ leavesAll ps
  | any p ps => leaves p ++ leavesAll ps
  | not p => leaves p

def leavesAll : List (Formula α) → List α
  | [] => []
  | p :: ps => leaves p ++ leavesAll ps

end

mutual

def decEq [DecidableEq α] : (p q : Formula α) → Decidable (p = q)
  | leaf a, leaf b => if h : a = b then isTrue (h ▸ rfl) else isFalse (by simp [h])
  | all p ps, all q qs =>
    match decEq p q, decEqAll ps qs with
    | isTrue h, isTrue hs => isTrue (h ▸ hs ▸ rfl)
    | isFalse h, _ => isFalse (by simp [h])
    | _, isFalse h => isFalse (by simp [h])
  | any p ps, any q qs =>
    match decEq p q, decEqAll ps qs with
    | isTrue h, isTrue hs => isTrue (h ▸ hs ▸ rfl)
    | isFalse h, _ => isFalse (by simp [h])
    | _, isFalse h => isFalse (by simp [h])
  | not p, not q =>
    match decEq p q with
    | isTrue h => isTrue (h ▸ rfl)
    | isFalse h => isFalse (by simp [h])
  | leaf _, all .. | leaf _, any .. | leaf _, not _ => isFalse (by simp)
  | all .., leaf _ | all .., any .. | all .., not _ => isFalse (by simp)
  | any .., leaf _ | any .., all .. | any .., not _ => isFalse (by simp)
  | not _, leaf _ | not _, all .. | not _, any .. => isFalse (by simp)

def decEqAll [DecidableEq α] : (ps qs : List (Formula α)) → Decidable (ps = qs)
  | [], [] => isTrue rfl
  | [], _ :: _ | _ :: _, [] => isFalse (by simp)
  | p :: ps, q :: qs =>
    match decEq p q, decEqAll ps qs with
    | isTrue h, isTrue hs => isTrue (h ▸ hs ▸ rfl)
    | isFalse h, _ => isFalse (by simp [h])
    | _, isFalse h => isFalse (by simp [h])

end

instance [DecidableEq α] : DecidableEq (Formula α) := decEq

@[simp] theorem conj_nil (p : Formula α) : conj p [] = p := rfl

@[simp] theorem disj_nil (p : Formula α) : disj p [] = p := rfl

def leaf? : Formula α → Option α
  | leaf a => some a
  | _ => none

mutual

/-- A walk meets the leaves from left to right. -/
theorem filterMap_walk (p : Formula α) : p.walk.filterMap leaf? = p.leaves := by
  match p with
  | leaf a => rfl
  | all p ps | any p ps =>
    rw [walk, leaves, List.filterMap_cons_none rfl, List.filterMap_append, filterMap_walk p,
      filterMap_walkAll ps]
  | not p => rw [walk, leaves, List.filterMap_cons_none rfl, filterMap_walk p]

theorem filterMap_walkAll (ps : List (Formula α)) :
    (walkAll ps).filterMap leaf? = leavesAll ps := by
  match ps with
  | [] => rfl
  | p :: ps =>
    rw [walkAll, leavesAll, List.filterMap_append, filterMap_walk p, filterMap_walkAll ps]

end

theorem mem_leaves_of_mem_walk {a : α} {p : Formula α} (h : leaf a ∈ p.walk) : a ∈ p.leaves := by
  rw [← filterMap_walk]
  exact List.mem_filterMap.2 ⟨leaf a, h, rfl⟩

theorem leavesAll_eq_flatMap (ps : List (Formula α)) : leavesAll ps = ps.flatMap leaves := by
  induction ps with
  | nil => rfl
  | cons p ps ih => simp [leavesAll, ih]

theorem leaves_disj (p : Formula α) (ps : List (Formula α)) :
    (disj p ps).leaves = p.leaves ++ ps.flatMap leaves := by
  cases ps with
  | nil => rw [disj_nil, List.flatMap_nil, List.append_nil]
  | cons q qs => rw [disj, leaves, leavesAll_eq_flatMap]

end Formula

end GroupSearch
