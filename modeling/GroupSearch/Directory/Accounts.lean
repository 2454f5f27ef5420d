import GroupSearch.Directory.Record
import GroupSearch.Text.Blank
import GroupSearch.Text.CaseFold
import GroupSearch.Text.Decimal

namespace GroupSearch

def insertId (n : Int) : List Int → List Int
  | [] => [n]
  | m :: ms => if n < m then n :: m :: ms else if n = m then m :: ms else m :: insertId n ms

def idSet (ids : List Int) : List Int := ids.foldr insertId []

theorem mem_insertId {a n : Int} {ids : List Int} : a ∈ insertId n ids ↔ a = n ∨ a ∈ ids := by
  induction ids with
  | nil => simp [insertId]
  | cons m ms ih =>
    simp only [insertId]
    split
    · simp
    split
    · simp_all
    · simp only [List.mem_cons, ih]
      grind

theorem mem_idSet {a : Int} {ids : List Int} : a ∈ idSet ids ↔ a ∈ ids := by
  induction ids with
  | nil => simp [idSet]
  | cons n ids ih => rw [idSet, List.foldr_cons, mem_insertId, List.mem_cons, ← ih, idSet]

theorem idSet_eq_nil {ids : List Int} : idSet ids = [] ↔ ids = [] := by
  simp only [List.eq_nil_iff_forall_not_mem, mem_idSet]

theorem insertId_ascending {n : Int} {ids : List Int} (h : ids.Pairwise (· < ·)) :
    (insertId n ids).Pairwise (· < ·) := by
  induction ids with
  | nil => simp [insertId]
  | cons m ms ih =>
    rw [List.pairwise_cons] at h
    simp only [insertId]
    split
    · rw [List.pairwise_cons, List.pairwise_cons]
      refine ⟨fun a ha ↦ ?_, h⟩
      rcases List.mem_cons.1 ha with rfl | ha
      · assumption
      · exact Int.lt_trans ‹n < m› (h.1 a ha)
    split
    · exact List.pairwise_cons.2 h
    · refine List.pairwise_cons.2 ⟨fun a ha ↦ ?_, ih h.2⟩
      rcases mem_insertId.1 ha with rfl | ha
      · omega
      · exact h.1 a ha

theorem idSet_ascending (ids : List Int) : (idSet ids).Pairwise (· < ·) := by
  induction ids with
  | nil => exact .nil
  | cons n ids ih => exact insertId_ascending ih

theorem idSet_nodup (ids : List Int) : (idSet ids).Nodup :=
  (idSet_ascending ids).imp fun hlt ↦ Int.ne_of_lt hlt

theorem idSet_congr {ids ids' : List Int} (h : ∀ a, a ∈ ids ↔ a ∈ ids') :
    idSet ids = idSet ids' := by
  have hp : (idSet ids).Perm (idSet ids') :=
    (List.perm_ext_iff_of_nodup (idSet_nodup ids) (idSet_nodup ids')).2 fun a ↦ by
      rw [mem_idSet, mem_idSet, h a]
  refine hp.eq_of_pairwise (fun a b _ _ hab hba ↦ ?_) (idSet_ascending ids) (idSet_ascending ids')
  exact absurd hba (Int.lt_asymm hab)

theorem idSet_eq_singleton {ids : List Int} {n : Int} (h : ∀ a, a ∈ ids ↔ a = n) :
    idSet ids = [n] :=
  idSet_congr fun a ↦ (h a).trans List.mem_singleton.symm

def idListing (ids : List Int) : String := "[" ++ ", ".intercalate (ids.map toString) ++ "]"

namespace Account

/-- A numeral without leading zeros, other than zero itself. -/
def idNumeral? : List Char → Option Nat
  | [] => none
  | c :: cs => if c = '0' then none else Text.natural? (c :: cs)

def isBracketable (cs : List Char) : Bool :=
  cs.all (fun c ↦ !(c == '<' || c == '>' || Text.isBlank c)) && (cs.drop 1).dropLast.contains '@'

/-- The email of a reference such as `Alice Example <alice@example.com>`; the name is on one line.
-/
def bracketedEmail? (reference : List Char) : Option (List Char) :=
  match reference.reverse with
  | '>' :: r =>
    let email := (r.takeWhile (· ≠ '<')).reverse
    match r.dropWhile (· ≠ '<') with
    | _ :: name => if isBracketable email && !name.contains '\n' then some email else none
    | [] => none
  | _ => none

def folds (key : String) (s : Option String) : Bool := Text.fold (s.getD "") == key

def nameStarts (key : String) (a : Account) : Bool :=
  (Text.wordChars (Text.foldChars (a.fullName.getD "").toList)).any fun w ↦
    key.toList.isPrefixOf w

end Account

/-- The accounts that a reference stands for, by the rule that found them. -/
inductive Resolution
  | blank
  | byId (ids : List Int)
  | byEmail (ids : List Int)
  | byUsername (ids : List Int)
  | byFullName (ids : List Int)
  | overlong (fault : Text.Overlong)
  deriving DecidableEq, Repr

def Resolution.ids : Resolution → Except Text.Overlong (List Int)
  | blank => .ok []
  | byId ids | byEmail ids | byUsername ids | byFullName ids => .ok ids
  | overlong fault => .error fault

namespace Directory

open Account

def activeIds (accounts : List Account) (p : Account → Bool) : List Int :=
  idSet ((accounts.filter fun a ↦ a.active && p a).map Account.id)

/-- The accounts with an id of so many digits. Ids that are in use are idealized: they have decimal
texts, and are found by them, however large they are. Any other number is read only as far as its
length allows. -/
def byNumber (accounts : List Account) (n digits : Nat) : Resolution :=
  match activeIds accounts fun a ↦ a.id == (n : Int) with
  | [] =>
    match Text.overlong? digits with
    | none => .byId []
    | some fault => .overlong fault
  | ids => .byId ids

def byFullName (accounts : List Account) (key : String) : List Int :=
  match activeIds accounts fun a ↦ folds key a.fullName with
  | [] => activeIds accounts (nameStarts key)
  | ids => ids

/-- Resolves a reference that neither is blank nor has blanks at its ends. -/
def resolveTrimmed (accounts : List Account) (reference : String) : Resolution :=
  match idNumeral? reference.toList with
  | some n => byNumber accounts n reference.length
  | none =>
    match bracketedEmail? reference.toList with
    | some email =>
      .byEmail (activeIds accounts fun a ↦ folds (Text.fold (String.ofList email)) a.email)
    | none =>
      let key := Text.fold reference
      if reference.toList.contains '@' then .byEmail (activeIds accounts fun a ↦ folds key a.email)
      else
        match activeIds accounts fun a ↦ folds key a.username with
        | [] => .byFullName (byFullName accounts key)
        | ids => .byUsername ids

def resolve (accounts : List Account) (reference : String) : Resolution :=
  if (Text.trim reference).isEmpty then .blank else resolveTrimmed accounts (Text.trim reference)

/-- The ids of all active accounts that a reference stands for, ascending. -/
def findAccounts (accounts : List Account) (reference : String) :
    Except Text.Overlong (List Int) :=
  (resolve accounts reference).ids

end Directory

end GroupSearch
