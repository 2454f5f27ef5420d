namespace GroupSearch.Text

/-- A blank separates words: the ASCII blanks and information separators, and the spaces, line
separators and paragraph separators of Unicode. -/
def isBlank (c : Char) : Bool :=
  let n := c.toNat
  (0x09 ≤ n && n ≤ 0x0D) || (0x1C ≤ n && n ≤ 0x20) || n == 0x85 || n == 0xA0 || n == 0x1680 ||
    (0x2000 ≤ n && n ≤ 0x200A) || n == 0x2028 || n == 0x2029 || n == 0x202F || n == 0x205F ||
    n == 0x3000

def isBlankText (s : String) : Bool := s.toList.all isBlank

def trimChars (cs : List Char) : List Char :=
  (((cs.dropWhile isBlank).reverse).dropWhile isBlank).reverse

def trim (s : String) : String := String.ofList (trimChars s.toList)

def splitStep (c : Char) : List Char × List (List Char) → List Char × List (List Char)
  | (word, done) =>
    if isBlank c then ([], if word.isEmpty then done else word :: done) else (c :: word, done)

def wordChars (cs : List Char) : List (List Char) :=
  let (word, done) := cs.foldr splitStep ([], [])
  if word.isEmpty then done else word :: done

end GroupSearch.Text
