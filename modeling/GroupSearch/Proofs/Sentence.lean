import GroupSearch.Proofs.Recognition

namespace GroupSearch

/-- A formula over what a text asks for, before anything is built from it. -/
abbrev Query := Formula Clause

namespace Query

def Sentence (ts : List Token) : Prop :=
  ∃ (vs : List Query) (q : Query), Grammar.Disjunction ts vs q

/-- The tokens can go on to a sentence. -/
def Viable (ts : List Token) : Prop := ∃ us, Sentence (ts ++ us)

theorem Viable.of_append {ts us : List Token} (h : Viable (ts ++ us)) : Viable ts := by
  obtain ⟨vs, h⟩ := h
  exact ⟨us ++ vs, by rwa [List.append_assoc] at h⟩

/-- Every parenthesis has its partner. -/
inductive Matched : List Token → Prop
  | nil : Matched []
  | cons {t : Token} {ts : List Token} :
      t.lexeme ≠ .openParen → t.lexeme ≠ .closeParen → Matched ts → Matched (t :: ts)
  | group {i j : Nat} {ts us : List Token} :
      Matched ts → Matched us → Matched (⟨.openParen, i⟩ :: (ts ++ ⟨.closeParen, j⟩ :: us))

/-- Of the parentheses without a partner the innermost is at the position `p`. -/
def InnermostOpen (p : Nat) (ts : List Token) : Prop :=
  ∃ before after, ts = before ++ ⟨.openParen, p⟩ :: after ∧ Matched after

theorem Matched.append {ts us : List Token} (h : Matched ts) (hu : Matched us) :
    Matched (ts ++ us) := by
  induction h with
  | nil => exact hu
  | cons ho hc _ ih => exact .cons ho hc ih
  | @group i j vs ws hv hw ihv ihw =>
    rw [List.cons_append, List.append_assoc, List.cons_append]
    exact .group hv ihw

/-- The positions of the parentheses without a partner, the innermost first. -/
inductive Leaves : List Token → List Nat → Prop
  | matched {ts : List Token} : Matched ts → Leaves ts []
  | opened {ts us : List Token} {p : Nat} {ps : List Nat} :
      Leaves ts ps → Matched us → Leaves (ts ++ ⟨.openParen, p⟩ :: us) (p :: ps)

theorem Leaves.append {ts us : List Token} {ps : List Nat} (h : Leaves ts ps) (hu : Matched us) :
    Leaves (ts ++ us) ps := by
  cases h with
  | matched h => exact .matched (h.append hu)
  | opened h hm =>
    rw [List.append_assoc, List.cons_append]
    exact .opened h (hm.append hu)

theorem Leaves.step {ts : List Token} {r r' : Reading} {t : Token} (h : Leaves ts r.opened)
    (hr : r.step t = some r') : Leaves (ts ++ [t]) r'.opened := by
  obtain ⟨l, i⟩ := t
  obtain ⟨opened, wanting⟩ := r
  cases l with
  | openParen => cases hr; exact .opened h .nil
  | closeParen =>
    cases wanting <;> cases h <;> cases hr
    rename_i ts us p ps h hm
    rw [List.append_assoc]
    exact h.append (.group hm .nil)
  | not => cases hr; exact h.append (.cons nofun nofun .nil)
  | clause cl => cases hr; exact h.append (.cons nofun nofun .nil)
  | and | or => cases wanting <;> cases hr; exact h.append (.cons nofun nofun .nil)

theorem Leaves.run {ts us : List Token} {r r' : Reading} (h : Leaves ts r.opened)
    (hr : r.run us = some r') : Leaves (ts ++ us) r'.opened := by
  induction us generalizing ts r with
  | nil =>
    cases hr
    rwa [List.append_nil]
  | cons t us ih =>
    rw [Reading.run_cons] at hr
    obtain ⟨r₁, ht, hr⟩ := Option.bind_eq_some_iff.1 hr
    have := ih (h.step ht) hr
    rwa [List.append_assoc] at this

theorem innermostOpen_of_run {ts : List Token} {p : Nat} {opened : List Nat} {wanting : Bool}
    (h : Reading.start.run ts = some ⟨p :: opened, wanting⟩) : InnermostOpen p ts := by
  have hl : Leaves ([] ++ ts) (p :: opened) := Leaves.run (r := Reading.start) (.matched .nil) h
  cases hl with
  | opened h hm => exact ⟨_, _, rfl, hm⟩

def keep (cl : Clause) : ExceptT Cause (StateM Unit) Query := return .leaf cl

theorem sentence_iff_run {ts : List Token} :
    Sentence ts ↔ Reading.start.run ts = some ⟨[], false⟩ := by
  refine ⟨fun ⟨vs, q, h⟩ ↦ h.run [] true, fun h ↦ ?_⟩
  rcases ho : runFrom () (ofTokens keep id ts) with ⟨e | q, u⟩
  · obtain ⟨before, after, r, vs, s, rfl, hr, -, hh⟩ := stops_of_ofTokens ho
    rw [Reading.run_append, hr] at h
    cases hh with
    | stuck hx => simp [hx] at h
    | wanting hw =>
      cases h
      cases hw
    | unclosed hp => cases h.symm.trans (congrArg some hp)
    | clause he => cases he
  · obtain ⟨vs, -, hd⟩ := derivation_of_ofTokens ho
    exact ⟨vs, q, hd⟩

def closing (r : Reading) : List Token :=
  (if r.wanting then [⟨.clause (.term ""), 0⟩] else []) ++ r.opened.map fun i ↦ ⟨.closeParen, i⟩

theorem run_closing (r : Reading) : r.run (closing r) = some ⟨[], false⟩ := by
  have hclose (opened : List Nat) :
      Reading.run ⟨opened, false⟩ (opened.map fun i ↦ ⟨.closeParen, i⟩) = some ⟨[], false⟩ := by
    induction opened with
    | nil => rfl
    | cons i opened ih => exact ih
  obtain ⟨opened, wanting⟩ := r
  cases wanting with
  | false => exact hclose opened
  | true => exact hclose opened

theorem viable_iff_run {ts : List Token} : Viable ts ↔ ∃ r, Reading.start.run ts = some r := by
  constructor
  · rintro ⟨us, h⟩
    rw [sentence_iff_run, Reading.run_append] at h
    obtain ⟨r, hr, -⟩ := Option.bind_eq_some_iff.1 h
    exact ⟨r, hr⟩
  · rintro ⟨r, hr⟩
    refine ⟨closing r, ?_⟩
    rw [sentence_iff_run, Reading.run_append, hr]
    exact run_closing r

end Query

end GroupSearch
