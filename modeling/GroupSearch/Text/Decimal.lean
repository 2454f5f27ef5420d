namespace GroupSearch.Text

def natural? (cs : List Char) : Option Nat :=
  if !cs.isEmpty && cs.all Char.isDigit then some (Nat.ofDigitChars 10 cs 0) else none

def integer? : List Char → Option Int
  | '-' :: cs => (natural? cs).map fun n ↦ -(n : Int)
  | cs => (natural? cs).map fun n ↦ (n : Int)

def mostDigits : Nat := 4300

/-- The fault of a numeral with too many digits; zeros in front count, a sign does not. -/
structure Overlong where
  digits : Nat
  deriving DecidableEq, Repr

def Overlong.message (o : Overlong) : String :=
  s!"Exceeds the limit ({mostDigits} digits) for integer string conversion: " ++
    s!"value has {o.digits} digits; use sys.set_int_max_str_digits() to increase the limit"

def overlong? (digits : Nat) : Option Overlong :=
  if mostDigits < digits then some ⟨digits⟩ else none

/-- The integer that a text is the numeral of. A numeral is read only as far as its length allows;
other texts are none, whatever their length. -/
def readInteger (cs : List Char) : Except Overlong (Option Int) :=
  match integer? cs, overlong? (cs.countP Char.isDigit) with
  | none, _ => .ok none
  | some n, none => .ok (some n)
  | some _, some o => .error o

theorem overlong?_eq_some_iff {digits : Nat} {o : Overlong} :
    overlong? digits = some o ↔ mostDigits < digits ∧ o = ⟨digits⟩ := by
  unfold overlong?
  rw [Option.ite_none_right_eq_some, Option.some.injEq, eq_comm (a := o)]

theorem overlong?_eq_none_iff {digits : Nat} : overlong? digits = none ↔ digits ≤ mostDigits := by
  simp [overlong?]

theorem readInteger_eq_some_iff {cs : List Char} {n : Int} : readInteger cs = .ok (some n) ↔
    integer? cs = some n ∧ cs.countP Char.isDigit ≤ mostDigits := by
  rw [← overlong?_eq_none_iff]
  unfold readInteger
  cases integer? cs <;> cases overlong? (cs.countP Char.isDigit) <;> simp

theorem readInteger_eq_error_iff {cs : List Char} {o : Overlong} : readInteger cs = .error o ↔
    (∃ n, integer? cs = some n) ∧ mostDigits < cs.countP Char.isDigit ∧
      o = ⟨cs.countP Char.isDigit⟩ := by
  rw [← overlong?_eq_some_iff]
  unfold readInteger
  cases integer? cs <;> cases overlong? (cs.countP Char.isDigit) <;> simp

theorem natural?_toDigits (n : Nat) : natural? (Nat.toDigits 10 n) = some n := by
  have h : (Nat.toDigits 10 n).all Char.isDigit = true :=
    List.all_eq_true.2 fun _ hc ↦ Nat.isDigit_of_mem_toDigits (by decide) (by decide) hc
  simp [natural?, h, Nat.toDigits_ne_nil, Nat.ofDigitChars_toDigits]

theorem natural?_toString (n : Nat) : natural? (toString n).toList = some n := by
  rw [show (toString n).toList = Nat.toDigits 10 n from Nat.toList_repr, natural?_toDigits]

theorem toList_negSucc (n : Nat) :
    (toString (Int.negSucc n)).toList = '-' :: (toString (n + 1)).toList :=
  String.toList_append

theorem integer?_of_natural? {cs : List Char} {n : Nat} (h : natural? cs = some n) :
    integer? cs = some (n : Int) := by
  unfold integer?
  split
  case h_1 => cases h
  case h_2 =>
    rw [h]
    rfl

theorem integer?_natural (n : Nat) : integer? (toString n).toList = some (n : Int) :=
  integer?_of_natural? (natural?_toString n)

theorem integer?_integer (n : Int) : integer? (toString n).toList = some n := by
  cases n with
  | ofNat n => exact integer?_natural n
  | negSucc n =>
    rw [toList_negSucc, integer?, natural?_toString]
    rfl

theorem toString_integer_injective {m n : Int} (h : (toString m).toList = (toString n).toList) :
    m = n := by
  have hm := integer?_integer m
  rw [h, integer?_integer] at hm
  exact (Option.some.inj hm).symm

theorem toList_integer_ne_nil (n : Int) : (toString n).toList ≠ [] := by
  intro h
  have hn := integer?_integer n
  rw [h] at hn
  cases hn

end GroupSearch.Text
