import GroupSearch.Proofs.Trace

namespace GroupSearch

open Text

namespace Cause

theorem message_limitNotPositive_inj {m n : Int} :
    (limitNotPositive m).message = (limitNotPositive n).message ↔ m = n := by
  constructor
  · intro h
    have htext : toString m = toString n :=
      (String.append_right_inj "limit must be positive: ").1 h
    exact toString_integer_injective (congrArg String.toList htext)
  · rintro rfl
    rfl

theorem message_invalidLimit_ne (text : String) (n : Int) :
    (invalidLimit text).message ≠ (limitNotPositive n).message := by
  intro h
  have hchars : "Invalid limit: ".toList ++ text.toList =
      "limit must be positive: ".toList ++ (toString n).toList := by
    rw [← String.toList_append, ← String.toList_append]
    exact congrArg String.toList h
  exact absurd (List.cons.inj hchars).1 (by decide)

end Cause

namespace Compiler

variable {σ : Type} {value : String} {k : Nat}

theorem limitNumeral?_eq_none_iff : limitNumeral? value = .ok none ↔
    ∀ k n, Decimal value.toList k n → k ≤ mostDigits ∧ (n < -2147483648 ∨ 2147483647 < n) := by
  constructor
  · intro hnone k n hn
    have hk : k ≤ mostDigits := by
      by_contra hlt
      have hread := readInteger_eq_error_iff_decimal.2 ⟨Nat.not_le.1 hlt, n, hn⟩
      cases hnone.symm.trans (limitNumeral?_eq_error_iff.2 hread)
    refine ⟨hk, ?_⟩
    by_contra hrange
    have hread := readInteger_eq_some_iff_decimal.2 ⟨k, hk, hn⟩
    cases hnone.symm.trans (limitNumeral?_eq_some_iff.2 ⟨hread, by omega, by omega⟩)
  · intro h
    cases hlimit : limitNumeral? value with
    | error o =>
      obtain ⟨hlt, n, hn⟩ :=
        readInteger_eq_error_iff_decimal.1 (limitNumeral?_eq_error_iff.1 hlimit)
      have := (h _ n hn).1
      omega
    | ok found =>
      cases found with
      | none => rfl
      | some n =>
        obtain ⟨hread, hmin, hmax⟩ := limitNumeral?_eq_some_iff.1 hlimit
        obtain ⟨k, -, hn⟩ := readInteger_eq_some_iff_decimal.1 hread
        have := (h k n hn).2
        omega

/-- What a value for a limit comes to, and when it comes to what. -/
structure LimitOutcome (value : String) (r : Except Defect Outcome) : Prop where
  accepted (n : Int) :
    (∃ cap : Limit, cap.count = n ∧ r = .ok (.ok (.leaf (.limit cap)))) ↔
      (∃ k ≤ mostDigits, Decimal value.toList k n) ∧ 1 ≤ n ∧ n ≤ 2147483647
  notPositive (n : Int) :
    r = .ok (.error ⟨.malformedValue, s!"limit must be positive: {n}"⟩) ↔
      (∃ k ≤ mostDigits, Decimal value.toList k n) ∧ -2147483648 ≤ n ∧ n ≤ 0
  invalid :
    r = .ok (.error ⟨.malformedValue, s!"Invalid limit: {value}"⟩) ↔
      ∀ k n, Decimal value.toList k n → k ≤ mostDigits ∧ (n < -2147483648 ∨ 2147483647 < n)
  malformed (f : Failure) : r = .ok (.error f) → f.kind = .malformedValue
  escaped (d : Defect) :
    r = .error d ↔ ∃ k n, Decimal value.toList k n ∧ mostDigits < k ∧ d = .overlong ⟨k⟩

theorem limitOutcome_of_cap {cap : Limit} (hcap : Decimal value.toList k cap.count)
    (hk : k ≤ mostDigits) (hle : cap.count ≤ 2147483647) :
    LimitOutcome value (.ok (.ok (.leaf (.limit cap)))) where
  accepted n := by
    have hpos := cap.positive
    rw [hcap.exists_short_iff hk]
    constructor
    · rintro ⟨_, rfl, heq⟩
      cases heq
      omega
    · rintro ⟨rfl, -, -⟩
      exact ⟨cap, rfl, rfl⟩
  notPositive n := by
    have hpos := cap.positive
    rw [hcap.exists_short_iff hk]
    exact ⟨nofun, fun ⟨hn, _, hn'⟩ ↦ by omega⟩
  invalid := by
    refine ⟨nofun, fun h ↦ ?_⟩
    have := (h k cap.count hcap).2
    omega
  malformed := nofun
  escaped d := by
    refine ⟨nofun, fun ⟨j, n, hn, hj, _⟩ ↦ ?_⟩
    have := (hn.unique hcap).1
    omega

theorem limitOutcome_of_notPositive {m : Int} (hm : Decimal value.toList k m)
    (hk : k ≤ mostDigits) (hmin : -2147483648 ≤ m) (hle : m ≤ 0) :
    LimitOutcome value (.ok (.error (Cause.limitNotPositive m).failure)) where
  accepted n := by
    rw [hm.exists_short_iff hk]
    exact ⟨nofun, fun ⟨hn, hpos, _⟩ ↦ by omega⟩
  notPositive n := by
    rw [hm.exists_short_iff hk]
    constructor
    · intro h
      have hmessage := congrArg Failure.message (Except.error.inj (Except.ok.inj h))
      obtain rfl := Cause.message_limitNotPositive_inj.1 hmessage
      exact ⟨rfl, hmin, hle⟩
    · rintro ⟨rfl, -, -⟩
      rfl
  invalid := by
    constructor
    · intro h
      have hmessage := congrArg Failure.message (Except.error.inj (Except.ok.inj h))
      exact (Cause.message_invalidLimit_ne value m hmessage.symm).elim
    · intro h
      have := (h k m hm).2
      omega
  malformed := by
    rintro f ⟨⟩
    rfl
  escaped d := by
    refine ⟨nofun, fun ⟨j, n, hn, hj, _⟩ ↦ ?_⟩
    have := (hn.unique hm).1
    omega

theorem limitOutcome_of_invalid (h : ∀ k n, Decimal value.toList k n →
    k ≤ mostDigits ∧ (n < -2147483648 ∨ 2147483647 < n)) :
    LimitOutcome value (.ok (.error (Cause.invalidLimit value).failure)) where
  accepted n := by
    refine ⟨nofun, fun ⟨⟨k, _, hn⟩, hpos, hmax⟩ ↦ ?_⟩
    have := (h k n hn).2
    omega
  notPositive n := by
    constructor
    · intro heq
      have hmessage := congrArg Failure.message (Except.error.inj (Except.ok.inj heq))
      exact (Cause.message_invalidLimit_ne value n hmessage).elim
    · rintro ⟨⟨k, -, hn⟩, hmin, hle⟩
      have := (h k n hn).2
      omega
  invalid := ⟨fun _ ↦ h, fun _ ↦ rfl⟩
  malformed := by
    rintro f ⟨⟩
    rfl
  escaped d := by
    refine ⟨nofun, fun ⟨k, n, hn, hk, _⟩ ↦ ?_⟩
    have := (h k n hn).1
    omega

theorem limitOutcome_of_overlong {m : Int} (hm : Decimal value.toList k m) (hk : mostDigits < k) :
    LimitOutcome value (.error (.overlong ⟨k⟩)) where
  accepted n := by
    refine ⟨nofun, fun ⟨⟨j, hj, hn⟩, _⟩ ↦ ?_⟩
    have := (hn.unique hm).1
    omega
  notPositive n := by
    refine ⟨nofun, fun ⟨⟨j, hj, hn⟩, _⟩ ↦ ?_⟩
    have := (hn.unique hm).1
    omega
  invalid := by
    refine ⟨nofun, fun h ↦ ?_⟩
    have := (h k m hm).1
    omega
  malformed := nofun
  escaped d := by
    constructor
    · rintro ⟨⟩
      exact ⟨k, m, hm, hk, rfl⟩
    · rintro ⟨j, n, hn, -, rfl⟩
      rw [(hn.unique hm).1]

theorem limitTo_outcome (value : String) :
    LimitOutcome value (settled (limitTo (some value))) := by
  unfold limitTo
  dsimp only
  split
  case h_1 o ho =>
    obtain ⟨hk, n, hn⟩ := readInteger_eq_error_iff_decimal.1 (limitNumeral?_eq_error_iff.1 ho)
    exact limitOutcome_of_overlong hn hk
  case h_2 hnone => exact limitOutcome_of_invalid (limitNumeral?_eq_none_iff.1 hnone)
  case h_3 n hsome =>
    obtain ⟨hread, hmin, hmax⟩ := limitNumeral?_eq_some_iff.1 hsome
    obtain ⟨k, hk, hn⟩ := readInteger_eq_some_iff_decimal.1 hread
    split
    case h_1 hcap =>
      exact limitOutcome_of_notPositive hn hk hmin (Limit.ofInt?_eq_none_iff.1 hcap)
    case h_2 cap hcap =>
      obtain rfl := Limit.ofInt?_eq_some_iff.1 hcap
      exact limitOutcome_of_cap hn hk (Int.ofNat_le.1 hmax)

theorem dispatch_limit (c : Compiler σ) (s : σ) (value : String) :
    (runFrom s (c.dispatch "limit" (some value))).1 = settled (limitTo (some value)) := by
  rw [← c.runFrom_operator_limit s value]
  exact c.settle_eq_settled _ _ s

/-- Whatever the value of a limit is, all ways to set it come to the same: the limit for a numeral
from 1 to the greatest number of 32 bits, a refusal that gives the number for one that is not
positive, and a refusal that gives the value for every other text; but a numeral with more digits
than are read is no outcome, whatever number it stands for. -/
theorem limit_exact_at_bounds (c : Compiler σ) (s : σ) (value : String) :
    ∃ r : Except Defect Outcome, LimitOutcome value r ∧ settled (limitTo (some value)) = r ∧
      settled (runFrom s (c.operator "limit" (some value))).1 = r ∧
      (runFrom s (c.dispatch "limit" (some value))).1 = r :=
  ⟨_, limitTo_outcome value, rfl, by rw [c.runFrom_operator_limit], c.dispatch_limit s value⟩

/-- A one behind so many zeros that it is not read: the limit is not set. -/
theorem long_numeral_escapes :
    let c : Compiler Unit :=
      ⟨.v5, ⟨fun _ ↦ pure [], fun _ ↦ pure none, fun _ ↦ pure [], fun _ s ↦ s⟩⟩
    let value := String.ofList (List.replicate 4300 '0' ++ ['1'])
    Decimal value.toList 4301 1 ∧
      (runFrom () (c.dispatch "limit" (some value))).1 = .error (.overlong ⟨4301⟩) := by
  intro c value
  have hone : Decimal value.toList 4301 1 := by
    rw [String.toList_ofList]
    exact decimal_one 4300
  refine ⟨hone, ?_⟩
  rw [dispatch_limit, limitTo_eq_escaped_iff.2 ⟨4301, 1, hone, by decide, rfl⟩]
  rfl

/-- Zeros in front do not count as digits of a number that is too great, and zero with a sign is
zero. -/
example :
    limitTo (some "00000000002147483647") = .ok (.leaf (.limit ⟨2147483647, by decide⟩)) ∧
      limitTo (some "2147483648") = .error (.rejected (.invalidLimit "2147483648")) ∧
      limitTo (some "-0") = .error (.rejected (.limitNotPositive 0)) := by
  decide +kernel

end Compiler

end GroupSearch
