import Mathlib.Data.List.Basic

namespace GroupSearch.Text

/-- The text does not go on with a character of the class. -/
def EndsRun (p : Char → Bool) (cs : List Char) : Prop := ∀ c ∈ cs.head?, p c = false

variable {p : Char → Bool}

theorem endsRun_nil : EndsRun p [] := nofun

theorem endsRun_cons {c : Char} (cs : List Char) (h : p c = false) : EndsRun p (c :: cs) := by
  rintro _ ⟨⟩
  exact h

theorem EndsRun.ne_append {x r s : List Char} {c : Char} (hr : EndsRun p r) (hc : p c = true) :
    r ≠ c :: x ++ s := by
  rintro rfl
  cases hc.symm.trans (hr c rfl)

theorem run_append_inj {xs ys r s : List Char} (hx : ∀ c ∈ xs, p c = true)
    (hy : ∀ c ∈ ys, p c = true) (hr : EndsRun p r) (hs : EndsRun p s) (h : xs ++ r = ys ++ s) :
    xs = ys ∧ r = s := by
  induction xs generalizing ys with
  | nil =>
    cases ys with
    | nil => exact ⟨rfl, h⟩
    | cons d ys => exact (hr.ne_append (hy d List.mem_cons_self) h).elim
  | cons c xs ih =>
    cases ys with
    | nil => exact (hs.ne_append (hx c List.mem_cons_self) h.symm).elim
    | cons d ys =>
      obtain ⟨rfl, hrest⟩ := List.cons.inj h
      obtain ⟨rfl, rfl⟩ := ih (fun e he ↦ hx e (List.mem_cons_of_mem _ he))
        (fun e he ↦ hy e (List.mem_cons_of_mem _ he)) hrest
      exact ⟨rfl, rfl⟩

theorem toList_pushn (s : String) (c : Char) (n : Nat) :
    (s.pushn c n).toList = s.toList ++ List.replicate n c := by
  induction n with
  | zero => exact (List.append_nil _).symm
  | succ n ih =>
    have hpush : s.pushn c (n + 1) = (s.pushn c n).push c := rfl
    rw [hpush, String.toList_push, ih, List.append_assoc, List.replicate_succ']

end GroupSearch.Text
