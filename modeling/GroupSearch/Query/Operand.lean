import GroupSearch.Text.Blank

namespace GroupSearch.Operand

def isWordChar (c : Char) : Bool := !(Text.isBlank c || c == '(' || c == ')' || c == '"')

/-- A value needs no quotes if it is not empty and all of it belongs to one word without colons. -/
def isPlain (cs : List Char) : Bool := !cs.isEmpty && cs.all fun c ↦ isWordChar c && c != ':'

def escape (cs : List Char) : List Char :=
  cs.flatMap fun c ↦ if c = '\\' ∨ c = '"' then ['\\', c] else [c]

def encode (cs : List Char) : List Char := if isPlain cs then cs else '"' :: escape cs ++ ['"']

def quote (s : String) : String := String.ofList (encode s.toList)

/-- Reads a quoted value behind its opening quote, and gives the value and the text behind the
closing quote. A backslash stands for the character after it, and for itself at the end of the
text. -/
def readQuoted : List Char → Option (List Char × List Char)
  | [] => none
  | '"' :: r => some ([], r)
  | '\\' :: c :: r => (readQuoted r).map fun v ↦ (c :: v.1, v.2)
  | c :: r => (readQuoted r).map fun v ↦ (c :: v.1, v.2)

theorem readQuoted_length {cs v r : List Char} (h : readQuoted cs = some (v, r)) :
    r.length < cs.length := by
  fun_induction readQuoted cs generalizing v r with
  | case1 => simp at h
  | case2 => simp_all
  | case3 c t ih =>
    obtain ⟨⟨v', r'⟩, h', e⟩ := Option.map_eq_some_iff.1 h
    cases e
    have := ih h'
    simp only [List.length_cons]
    omega
  | case4 c t _ _ ih =>
    obtain ⟨⟨v', r'⟩, h', e⟩ := Option.map_eq_some_iff.1 h
    cases e
    have := ih h'
    simp only [List.length_cons]
    omega

theorem readQuoted_escape (cs r : List Char) :
    readQuoted (escape cs ++ '"' :: r) = some (cs, r) := by
  induction cs with
  | nil => rfl
  | cons c cs ih =>
    by_cases h : c = '\\' ∨ c = '"'
    · simp only [escape, List.flatMap_cons, if_pos h] at ih ⊢
      simp [readQuoted, ih]
    · simp only [escape, List.flatMap_cons, if_neg h] at ih ⊢
      rw [not_or] at h
      simp [readQuoted, ih, h]

end GroupSearch.Operand
