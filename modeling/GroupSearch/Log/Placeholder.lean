namespace GroupSearch.Log

inductive Extent
  | given (n : Nat)
  /-- Taken from the values, in front of the value of the place. -/
  | taken
  deriving DecidableEq, Repr

structure Placeholder where
  key : Option String
  flags : List Char
  width : Option Extent
  precision : Option Extent
  letter : Char
  deriving DecidableEq, Repr

namespace Placeholder

def isFlag (c : Char) : Bool := ['-', '+', ' ', '#', '0'].contains c

def closing : Nat → List Char → Option (List Char × List Char)
  | _, [] => none
  | depth, c :: cs =>
    if c = ')' ∧ depth = 0 then some ([], cs)
    else
      let inside := if c = '(' then depth + 1 else if c = ')' then depth - 1 else depth
      (closing inside cs).map fun (key, rest) ↦ (c :: key, rest)

def readKey : List Char → Option (Option String × List Char)
  | '(' :: cs => (closing 0 cs).map fun (key, rest) ↦ (some (String.ofList key), rest)
  | cs => some (none, cs)

def readExtent : List Char → Option Extent × List Char
  | '*' :: cs => (some .taken, cs)
  | cs =>
    let digits := cs.takeWhile Char.isDigit
    if digits.isEmpty then (none, cs)
    else (some (.given (Nat.ofDigitChars 10 digits 0)), cs.dropWhile Char.isDigit)

def readPrecision : List Char → Option Extent × List Char
  | '.' :: cs =>
    let (e, rest) := readExtent cs
    (some (e.getD (.given 0)), rest)
  | cs => (none, cs)

def dropSize : List Char → List Char
  | c :: cs => if c = 'h' ∨ c = 'l' ∨ c = 'L' then cs else c :: cs
  | [] => []

def read (cs : List Char) : Option (Placeholder × List Char) :=
  match readKey cs with
  | none => none
  | some (key, cs) =>
    let (width, ds) := readExtent (cs.dropWhile isFlag)
    let (precision, ds) := readPrecision ds
    match dropSize ds with
    | [] => none
    | letter :: rest => some (⟨key, cs.takeWhile isFlag, width, precision, letter⟩, rest)

theorem length_of_closing {depth : Nat} {cs key rest : List Char}
    (h : closing depth cs = some (key, rest)) : rest.length ≤ cs.length := by
  induction cs generalizing depth key with
  | nil => simp [closing] at h
  | cons c cs ih =>
    simp only [closing] at h
    split at h
    · cases h
      simp
    · simp only [Option.map_eq_some_iff, Prod.exists, Prod.mk.injEq] at h
      obtain ⟨k, r, hk, -, rfl⟩ := h
      have := ih hk
      simp only [List.length_cons]
      omega

theorem length_of_readKey {cs rest : List Char} {key : Option String}
    (h : readKey cs = some (key, rest)) : rest.length ≤ cs.length := by
  unfold readKey at h
  split at h
  · simp only [Option.map_eq_some_iff, Prod.exists, Prod.mk.injEq] at h
    obtain ⟨k, r, hk, -, rfl⟩ := h
    have := length_of_closing hk
    simp only [List.length_cons]
    omega
  · cases h
    exact Nat.le_refl _

theorem length_readExtent (cs : List Char) : (readExtent cs).2.length ≤ cs.length := by
  unfold readExtent
  split
  · simp
  · simp only
    split
    · exact Nat.le_refl _
    · exact (List.dropWhile_sublist _).length_le

theorem length_readPrecision (cs : List Char) : (readPrecision cs).2.length ≤ cs.length := by
  unfold readPrecision
  split
  · next cs =>
    have := length_readExtent cs
    simp only [List.length_cons]
    omega
  · exact Nat.le_refl _

theorem length_dropSize (cs : List Char) : (dropSize cs).length ≤ cs.length := by
  unfold dropSize
  split
  · split <;> simp
  · simp

theorem length_of_read {cs rest : List Char} {p : Placeholder} (h : read cs = some (p, rest)) :
    rest.length < cs.length := by
  unfold read at h
  split at h
  · cases h
  · next key ds hkey =>
    have hk := length_of_readKey hkey
    have hf : (ds.dropWhile isFlag).length ≤ ds.length := (List.dropWhile_sublist _).length_le
    have hw := length_readExtent (ds.dropWhile isFlag)
    have hp := length_readPrecision (readExtent (ds.dropWhile isFlag)).2
    have hs := length_dropSize (readPrecision (readExtent (ds.dropWhile isFlag)).2).2
    simp only at h
    split at h
    · cases h
    · next heq =>
      cases h
      rw [heq] at hs
      simp only [List.length_cons] at hs
      omega

end Placeholder

end GroupSearch.Log
