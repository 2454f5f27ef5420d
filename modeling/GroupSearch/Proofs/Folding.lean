import GroupSearch.Text.Blank
import GroupSearch.Text.CaseFold
import Mathlib.Data.List.TakeWhile

namespace GroupSearch.Text

def markRanges : List (Nat × Nat) :=
  [(0x09, 0x0D), (0x1C, 0x20), (0x30, 0x39), (0x3C, 0x3C), (0x3E, 0x3E), (0x40, 0x40),
    (0x85, 0x85), (0xA0, 0xA0), (0x1680, 0x1680), (0x2000, 0x200A), (0x2028, 0x2029),
    (0x202F, 0x202F), (0x205F, 0x205F), (0x3000, 0x3000)]

def isMarkCode (n : Nat) : Bool := markRanges.any fun r ↦ r.1 ≤ n && n ≤ r.2

def isMark (c : Char) : Bool := isMarkCode c.toNat

theorem isMark_of_isBlank (c : Char) (h : isBlank c = true) : isMark c = true := by
  simp only [isBlank, Bool.or_eq_true, Bool.and_eq_true, decide_eq_true_eq, beq_iff_eq] at h
  simp only [isMark, isMarkCode, markRanges, List.any_cons, List.any_nil, Bool.or_eq_true,
    Bool.and_eq_true, decide_eq_true_eq]
  omega

theorem isMark_of_isDigit (c : Char) (h : c.isDigit = true) : isMark c = true := by
  simp only [Char.isDigit, Bool.and_eq_true, decide_eq_true_eq, UInt32.le_iff_toNat_le] at h
  have hc : 0x30 ≤ c.toNat ∧ c.toNat ≤ 0x39 := h
  simp only [isMark, isMarkCode, markRanges, List.any_cons, List.any_nil, Bool.or_eq_true,
    Bool.and_eq_true, decide_eq_true_eq]
  omega

theorem isMark_ofNat {n : Nat} (h : isMarkCode n = false) : isMark (Char.ofNat n) = false := by
  unfold isMark Char.ofNat
  by_cases hn : n.isValidChar
  · rw [dif_pos hn]
    exact h
  · rw [dif_neg hn]
    decide

def FoldRun.Clear (r : FoldRun) : Prop :=
  ∀ m ∈ markRanges, (r.last < m.1 ∨ m.2 < r.first) ∧
    ((r.last : Int) + r.shift < m.1 ∨ (m.2 : Int) < r.first + r.shift)

instance (r : FoldRun) : Decidable r.Clear :=
  inferInstanceAs (Decidable (∀ m ∈ markRanges, _))

theorem foldRuns_clear : ∀ r ∈ foldRuns, r.Clear := by decide +kernel

theorem foldExpansions_clear : ∀ e ∈ foldExpansions, isMarkCode e.1 = false ∧ e.2 ≠ [] ∧
    ∀ n ∈ e.2, isMarkCode n = false := by decide +kernel

theorem FoldRun.Clear.isMarkCode_eq {r : FoldRun} (h : r.Clear) {n : Nat}
    (hn : r.contains n = true) :
    isMarkCode n = false ∧ isMarkCode ((n : Int) + r.shift).toNat = false := by
  simp only [FoldRun.contains, Bool.and_eq_true, decide_eq_true_eq] at hn
  obtain ⟨⟨hfirst, hlast⟩, -⟩ := hn
  simp only [isMarkCode, List.any_eq_false, Bool.and_eq_true, decide_eq_true_eq, not_and]
  constructor
  · intro m hm hle
    have := (h m hm).1
    omega
  · intro m hm hle
    have hpos : 0 < m.1 := (by decide : ∀ m ∈ markRanges, 0 < m.1) m hm
    have := (h m hm).2
    omega

/-- A character folds to itself alone, or it is no mark and folds to characters that are none. -/
theorem foldChar_cases (c : Char) : foldChar c = [c] ∨
    (isMark c = false ∧ foldChar c ≠ [] ∧ ∀ d ∈ foldChar c, isMark d = false) := by
  unfold foldChar
  cases he : foldExpansions.lookup c.toNat with
  | some ns =>
    obtain ⟨before, behind, hsplit, -⟩ := List.lookup_eq_some_iff.1 he
    obtain ⟨hcode, hne, hns⟩ := foldExpansions_clear (c.toNat, ns) (by simp [hsplit])
    refine .inr ⟨hcode, by simpa using hne, ?_⟩
    intro d hd
    obtain ⟨n, hn, rfl⟩ := List.mem_map.1 hd
    exact isMark_ofNat (hns n hn)
  | none =>
    cases hr : foldRuns.find? (·.contains c.toNat) with
    | none => exact .inl rfl
    | some r =>
      have hcontains : r.contains c.toNat = true := by simpa using List.find?_some hr
      have hclear := (foldRuns_clear r (List.mem_of_find?_eq_some hr)).isMarkCode_eq hcontains
      refine .inr ⟨hclear.1, List.cons_ne_nil _ _, ?_⟩
      intro d hd
      rw [List.mem_singleton.1 hd]
      exact isMark_ofNat hclear.2

theorem foldChar_ne_nil (c : Char) : foldChar c ≠ [] := by
  rcases foldChar_cases c with h | ⟨-, h, -⟩
  · simp [h]
  · exact h

theorem foldChar_of_isMark {c : Char} (h : isMark c = true) : foldChar c = [c] := by
  rcases foldChar_cases c with hc | ⟨hc, -, -⟩
  · exact hc
  · rw [h] at hc
    cases hc

theorem foldChars_cons (c : Char) (cs : List Char) :
    foldChars (c :: cs) = foldChar c ++ foldChars cs := rfl

theorem foldChars_eq_nil {cs : List Char} : foldChars cs = [] ↔ cs = [] := by
  cases cs with
  | nil => simp [foldChars]
  | cons c cs => simp [foldChars_cons, foldChar_ne_nil]

theorem fold_eq_iff {s t : String} : fold s = fold t ↔ foldChars s.toList = foldChars t.toList :=
  String.ofList_inj

theorem foldChars_of_marks {cs : List Char} (h : ∀ c ∈ cs, isMark c = true) :
    foldChars cs = cs := by
  induction cs with
  | nil => rfl
  | cons c cs ih =>
    rw [List.forall_mem_cons] at h
    rw [foldChars_cons, foldChar_of_isMark h.1, ih h.2, List.singleton_append]

theorem foldChars_eq_append_cons {m : Char} (hm : isMark m = true) {cs a b : List Char}
    (h : foldChars cs = a ++ m :: b) :
    ∃ x y, cs = x ++ m :: y ∧ foldChars x = a ∧ foldChars y = b := by
  induction cs generalizing a with
  | nil => simp [foldChars] at h
  | cons c cs ih =>
    have hlater {a' : List Char} (ha : a = foldChar c ++ a') (h' : foldChars cs = a' ++ m :: b) :
        ∃ x y, c :: cs = x ++ m :: y ∧ foldChars x = a ∧ foldChars y = b := by
      obtain ⟨x, y, rfl, rfl, rfl⟩ := ih h'
      exact ⟨c :: x, y, rfl, ha.symm, rfl⟩
    rw [foldChars_cons, List.append_eq_append_iff] at h
    rcases h with ⟨a', ha, h'⟩ | ⟨a', ha, h'⟩
    · exact hlater ha h'
    · cases a' with
      | nil =>
        have ha' : a = foldChar c ++ [] := by simpa using ha.symm
        exact hlater ha' h'.symm
      | cons d ds =>
        -- The mark is among the characters that `c` folds to, so it is `c` itself.
        obtain ⟨rfl, rfl⟩ := List.cons.inj h'
        rcases foldChar_cases c with hc | ⟨-, -, hc⟩
        · rw [hc] at ha
          obtain ⟨rfl, hs⟩ := List.append_eq_singleton_iff.1 ha.symm |>.resolve_right (by simp)
          cases hs
          exact ⟨[], cs, rfl, rfl, rfl⟩
        · have := hc m (by simp [ha])
          rw [hm] at this
          cases this

theorem mem_foldChars {m : Char} (hm : isMark m = true) {cs : List Char} :
    m ∈ foldChars cs ↔ m ∈ cs := by
  constructor
  · intro h
    obtain ⟨a, b, hab⟩ := List.append_of_mem h
    obtain ⟨x, y, rfl, -, -⟩ := foldChars_eq_append_cons hm hab
    simp
  · intro h
    exact List.mem_flatMap.2 ⟨m, h, by simp [foldChar_of_isMark hm]⟩

/-- A property of characters that folding neither takes away nor gives. -/
def Caseless (p : Char → Bool) : Prop := ∀ c, ∀ d ∈ foldChar c, p d = p c

namespace Caseless

variable {p : Char → Bool}

theorem of_marks (hp : ∀ c, p c = true → isMark c = true) : Caseless p := by
  intro c d hd
  have hfalse (x : Char) (hx : isMark x = false) : p x = false := by
    cases hpx : p x with
    | false => rfl
    | true =>
      rw [hp x hpx] at hx
      cases hx
  rcases foldChar_cases c with hc | ⟨hc, -, hmem⟩
  · rw [hc, List.mem_singleton] at hd
    rw [hd]
  · rw [hfalse c hc, hfalse d (hmem d hd)]

theorem isBlank : Caseless isBlank := of_marks isMark_of_isBlank

theorem isDigit : Caseless Char.isDigit := of_marks isMark_of_isDigit

theorem not (h : Caseless p) : Caseless fun c ↦ !p c := by
  intro c d hd
  exact congrArg Bool.not (h c d hd)

theorem all (h : Caseless p) (cs : List Char) : (foldChars cs).all p = cs.all p := by
  induction cs with
  | nil => rfl
  | cons c cs ih =>
    have hc : (foldChar c).all p = p c := by
      obtain ⟨d, ds, hd⟩ := List.exists_cons_of_ne_nil (foldChar_ne_nil c)
      have hmem : ∀ x ∈ d :: ds, p x = p c := fun x hx ↦ h c x (hd ▸ hx)
      rw [List.forall_mem_cons] at hmem
      rw [hd, List.all_cons, hmem.1]
      cases hpc : p c with
      | false => rfl
      | true =>
        rw [hpc] at hmem
        simpa using hmem.2
    rw [foldChars_cons, List.all_append, List.all_cons, hc, ih]

theorem dropWhile_flatMap (h : Caseless p) {f : Char → List Char} (hne : ∀ c, f c ≠ [])
    (hmem : ∀ c, ∀ d ∈ f c, d ∈ foldChar c) (cs : List Char) :
    (cs.flatMap f).dropWhile p = (cs.dropWhile p).flatMap f := by
  induction cs with
  | nil => rfl
  | cons c cs ih =>
    have hc (d : Char) (hd : d ∈ f c) : p d = p c := h c d (hmem c d hd)
    rw [List.flatMap_cons, List.dropWhile_append]
    by_cases hpc : p c = true
    · have hnil : (f c).dropWhile p = [] := by
        rw [List.dropWhile_eq_nil_iff]
        intro d hd
        rw [hc d hd, hpc]
      simp [hnil, hpc, ih]
    · obtain ⟨d, ds, hd⟩ := List.exists_cons_of_ne_nil (hne c)
      have hpd : ¬ p d = true := by
        rw [hc d (by simp [hd])]
        exact hpc
      simp [hd, hpc, hpd]

end Caseless

theorem foldChars_trimChars (cs : List Char) :
    foldChars (trimChars cs) = trimChars (foldChars cs) := by
  have hreverse (xs : List Char) :
      (foldChars xs).reverse = xs.reverse.flatMap (List.reverse ∘ foldChar) := List.reverse_flatMap
  have hfront (xs : List Char) :
      (foldChars xs).dropWhile isBlank = foldChars (xs.dropWhile isBlank) :=
    Caseless.isBlank.dropWhile_flatMap foldChar_ne_nil (fun _ _ h ↦ h) xs
  have hback (xs : List Char) : ((foldChars xs).reverse.dropWhile isBlank).reverse =
      foldChars (xs.reverse.dropWhile isBlank).reverse := by
    rw [hreverse, Caseless.isBlank.dropWhile_flatMap (by simp [foldChar_ne_nil]) (by simp),
      ← List.reverse_reverse (foldChars _), hreverse, List.reverse_reverse]
  unfold trimChars
  rw [hfront, hback]

end GroupSearch.Text
