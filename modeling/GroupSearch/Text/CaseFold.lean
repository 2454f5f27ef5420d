import GroupSearch.Text.CaseTable

namespace GroupSearch.Text

def foldChar (c : Char) : List Char :=
  match foldExpansions.lookup c.toNat with
  | some ns => ns.map Char.ofNat
  | none =>
    match foldRuns.find? (·.contains c.toNat) with
    | some r => [Char.ofNat ((c.toNat : Int) + r.shift).toNat]
    | none => [c]

def foldChars (cs : List Char) : List Char := cs.flatMap foldChar

/-- Two texts that differ in case only have the same folding. -/
def fold (s : String) : String := String.ofList (foldChars s.toList)

/-- Small letters for the ASCII capitals. Outside ASCII only the Kelvin sign turns into an ASCII
letter when its case is dropped, and it turns into a k, which no keyword compared this way has. -/
def lowerKeyword (s : String) : String := String.ofList (s.toList.map Char.toLower)

def asciiCapitals : List (Char × List Char) :=
  [('ı', ['I']), ('ſ', ['S']), ('ß', ['S', 'S']), ('ﬀ', ['F', 'F']), ('ﬁ', ['F', 'I']),
    ('ﬂ', ['F', 'L']), ('ﬃ', ['F', 'F', 'I']), ('ﬄ', ['F', 'F', 'L']), ('ﬅ', ['S', 'T']),
    ('ﬆ', ['S', 'T'])]

def capitals (c : Char) : List Char := (asciiCapitals.lookup c).getD [c.toUpper]

def upperName (s : String) : String := String.ofList (s.toList.flatMap capitals)

theorem foldChars_append (a b : List Char) : foldChars (a ++ b) = foldChars a ++ foldChars b := by
  simp [foldChars]

end GroupSearch.Text
