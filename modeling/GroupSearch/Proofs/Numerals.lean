import GroupSearch.Text.Decimal
import Mathlib.Data.List.Induction
import Mathlib.Data.Nat.Digits.Defs

namespace GroupSearch.Text

/-- A decimal numeral, the number of its digits, and the integer that it stands for: a minus sign or
none, and one or more digits of ASCII. Any number of zeros may stand in front, and zero may have the
sign. -/
inductive Decimal : List Char → Nat → Int → Prop
  | plain {ds : List Nat} : ds ≠ [] → (∀ d ∈ ds, d < 10) →
      Decimal (ds.map Nat.digitChar) ds.length (Nat.ofDigits 10 ds.reverse : Nat)
  | minus {ds : List Nat} : ds ≠ [] → (∀ d ∈ ds, d < 10) →
      Decimal ('-' :: ds.map Nat.digitChar) ds.length (-(Nat.ofDigits 10 ds.reverse : Nat))

theorem ofDigitChars_digits {ds : List Nat} (h : ∀ d ∈ ds, d < 10) :
    Nat.ofDigitChars 10 (ds.map Nat.digitChar) 0 = Nat.ofDigits 10 ds.reverse := by
  -- From the right, since `Nat.ofDigits` has the lowest digit in front.
  induction ds using List.reverseRecOn with
  | nil => rfl
  | append_singleton ds d ih =>
    obtain ⟨hds, hd⟩ := List.forall_mem_append.1 h
    have hlt : d < 10 := hd d List.mem_cons_self
    rw [List.map_append, Nat.ofDigitChars_append, ih hds, List.map_singleton,
      Nat.ofDigitChars_cons_digitChar_of_lt_ten hlt, Nat.ofDigitChars_nil, List.reverse_append,
      List.reverse_singleton, List.singleton_append, Nat.ofDigits_cons, Nat.add_comm]

theorem exists_digits {cs : List Char} (h : ∀ c ∈ cs, c.isDigit = true) :
    ∃ ds : List Nat, (∀ d ∈ ds, d < 10) ∧ ds.map Nat.digitChar = cs := by
  have hcode (c : Char) (hc : c ∈ cs) : 48 ≤ c.toNat ∧ c.toNat ≤ 57 :=
    Char.isDigit_iff_toNat.1 (h c hc)
  refine ⟨cs.map fun c ↦ c.toNat - 48, ?_, ?_⟩
  · intro d hd
    obtain ⟨c, hc, rfl⟩ := List.mem_map.1 hd
    have := hcode c hc
    omega
  · rw [List.map_map]
    refine (List.map_congr_left fun c hc ↦ ?_).trans (List.map_id cs)
    obtain ⟨hmin, hmax⟩ := hcode c hc
    refine Char.toNat_inj.1 ?_
    rw [Function.comp_apply, Nat.toNat_digitChar_of_lt_ten (by omega), id]
    omega

theorem natural?_eq_some_iff {cs : List Char} {n : Nat} : natural? cs = some n ↔
    ∃ ds : List Nat, ds ≠ [] ∧ (∀ d ∈ ds, d < 10) ∧ ds.map Nat.digitChar = cs ∧
      Nat.ofDigits 10 ds.reverse = n := by
  unfold natural?
  simp only [Option.ite_none_right_eq_some, Option.some.injEq, Bool.and_eq_true, Bool.not_eq_true',
    List.isEmpty_eq_false_iff, List.all_eq_true]
  constructor
  · rintro ⟨⟨hne, hdigit⟩, rfl⟩
    obtain ⟨ds, hds, rfl⟩ := exists_digits hdigit
    exact ⟨ds, mt (congrArg (List.map Nat.digitChar)) hne, hds, rfl, (ofDigitChars_digits hds).symm⟩
  · rintro ⟨ds, hne, hds, rfl, rfl⟩
    refine ⟨⟨mt List.map_eq_nil_iff.1 hne, ?_⟩, ofDigitChars_digits hds⟩
    intro c hc
    obtain ⟨d, hd, rfl⟩ := List.mem_map.1 hc
    rw [Nat.isDigit_digitChar, decide_eq_true_iff]
    exact hds d hd

theorem countP_isDigit_digits {ds : List Nat} (h : ∀ d ∈ ds, d < 10) :
    (ds.map Nat.digitChar).countP Char.isDigit = ds.length := by
  rw [List.countP_map, List.countP_eq_length]
  intro d hd
  simp [h d hd]

theorem Decimal.countP_isDigit {cs : List Char} {k : Nat} {n : Int} (h : Decimal cs k n) :
    cs.countP Char.isDigit = k := by
  cases h with
  | plain _ hds => exact countP_isDigit_digits hds
  | minus _ hds => rw [List.countP_cons_of_neg (by decide), countP_isDigit_digits hds]

theorem integer?_eq_some_iff {cs : List Char} {n : Int} :
    integer? cs = some n ↔ ∃ k, Decimal cs k n := by
  constructor
  · intro h
    unfold integer? at h
    split at h
    case h_1 cs =>
      obtain ⟨m, hm, rfl⟩ : ∃ m, natural? cs = some m ∧ -(m : Int) = n := by
        simpa [Option.bind_eq_some_iff] using h
      obtain ⟨ds, hne, hds, rfl, rfl⟩ := natural?_eq_some_iff.1 hm
      exact ⟨_, .minus hne hds⟩
    case h_2 =>
      obtain ⟨m, hm, rfl⟩ : ∃ m, natural? cs = some m ∧ (m : Int) = n := by
        simpa [Option.bind_eq_some_iff] using h
      obtain ⟨ds, hne, hds, rfl, rfl⟩ := natural?_eq_some_iff.1 hm
      exact ⟨_, .plain hne hds⟩
  · rintro ⟨k, h⟩
    cases h with
    | plain hne hds =>
      exact integer?_of_natural? (natural?_eq_some_iff.2 ⟨_, hne, hds, rfl, rfl⟩)
    | minus hne hds =>
      rw [integer?, natural?_eq_some_iff.2 ⟨_, hne, hds, rfl, rfl⟩]
      rfl

theorem Decimal.unique {cs : List Char} {j k : Nat} {m n : Int} (h : Decimal cs j m)
    (h' : Decimal cs k n) : j = k ∧ m = n := by
  have hm := integer?_eq_some_iff.2 ⟨j, h⟩
  rw [integer?_eq_some_iff.2 ⟨k, h'⟩] at hm
  exact ⟨h.countP_isDigit.symm.trans h'.countP_isDigit, (Option.some.inj hm).symm⟩

theorem Decimal.exists_short_iff {cs : List Char} {k : Nat} {m : Int} (h : Decimal cs k m)
    (hk : k ≤ mostDigits) (n : Int) : (∃ j ≤ mostDigits, Decimal cs j n) ↔ n = m := by
  constructor
  · rintro ⟨j, -, h'⟩
    exact (h'.unique h).2
  · rintro rfl
    exact ⟨k, hk, h⟩

theorem decimal_one (zeros : Nat) :
    Decimal (List.replicate zeros '0' ++ ['1']) (zeros + 1) 1 := by
  have hdigits : ∀ d ∈ List.replicate zeros 0 ++ [1], d < 10 := by
    simp only [List.mem_append, List.mem_replicate, List.mem_singleton]
    omega
  have hvalue : Nat.ofDigits 10 (List.replicate zeros 0 ++ [1]).reverse = 1 := by
    rw [List.reverse_append, List.reverse_replicate, List.reverse_singleton,
      List.singleton_append, Nat.ofDigits_cons, Nat.ofDigits_replicate_zero]
  have h := Decimal.plain (by simp) hdigits
  rw [hvalue, List.map_append, List.map_replicate, List.length_append, List.length_replicate] at h
  exact h

theorem readInteger_eq_some_iff_decimal {cs : List Char} {n : Int} :
    readInteger cs = .ok (some n) ↔ ∃ k ≤ mostDigits, Decimal cs k n := by
  rw [readInteger_eq_some_iff, integer?_eq_some_iff]
  constructor
  · rintro ⟨⟨k, h⟩, hle⟩
    exact ⟨k, h.countP_isDigit ▸ hle, h⟩
  · rintro ⟨k, hle, h⟩
    exact ⟨⟨k, h⟩, h.countP_isDigit.symm ▸ hle⟩

theorem readInteger_eq_error_iff_decimal {cs : List Char} {o : Overlong} :
    readInteger cs = .error o ↔ mostDigits < o.digits ∧ ∃ n, Decimal cs o.digits n := by
  rw [readInteger_eq_error_iff]
  simp only [integer?_eq_some_iff]
  constructor
  · rintro ⟨⟨n, k, h⟩, hlt, rfl⟩
    exact ⟨hlt, n, h.countP_isDigit.symm ▸ h⟩
  · rintro ⟨hlt, n, h⟩
    exact ⟨⟨n, _, h⟩, h.countP_isDigit.symm ▸ hlt, by rw [h.countP_isDigit]⟩

end GroupSearch.Text
