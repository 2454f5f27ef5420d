import GroupSearch.Text.Printable

-- Powers are those of the core library, whatever other instances are around.
attribute [local instance (2000)] instPowNat

namespace GroupSearch.Text

def hexDigits (width n : Nat) : List Char :=
  (List.range width).reverse.map fun i ↦ (n / 16 ^ i % 16).digitChar

def escapeCode (c : Char) : List Char :=
  if c.toNat < 0x100 then '\\' :: 'x' :: hexDigits 2 c.toNat
  else if c.toNat < 0x10000 then '\\' :: 'u' :: hexDigits 4 c.toNat
  else '\\' :: 'U' :: hexDigits 8 c.toNat

def escapeChar (q c : Char) : List Char :=
  if c = q ∨ c = '\\' then ['\\', c]
  else if c = '\t' then ['\\', 't']
  else if c = '\n' then ['\\', 'n']
  else if c = '\r' then ['\\', 'r']
  else if isPrintable c then [c]
  else escapeCode c

def asciiChars (cs : List Char) : List Char :=
  cs.flatMap fun c ↦ if c.toNat < 0x80 then [c] else escapeCode c

def quoteMark (cs : List Char) : Char :=
  if cs.contains '\'' && !cs.contains '"' then '"' else '\''

def quoted (s : String) : String :=
  let q := quoteMark s.toList
  String.ofList (q :: s.toList.flatMap (escapeChar q) ++ [q])

def quotedOption : Option String → String
  | none => "None"
  | some s => quoted s

end GroupSearch.Text
