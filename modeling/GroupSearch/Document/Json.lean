import GroupSearch.Document.Value
import GroupSearch.Number.Notation
import GroupSearch.Text.Quoted

namespace GroupSearch.Value

def escapeJson (c : Char) : List Char :=
  if c = '"' ∨ c = '\\' then ['\\', c]
  else if c = '\n' then ['\\', 'n']
  else if c = '\r' then ['\\', 'r']
  else if c = '\t' then ['\\', 't']
  else if c = '\x08' then ['\\', 'b']
  else if c = '\x0c' then ['\\', 'f']
  else if c.toNat < 0x20 then '\\' :: 'u' :: Text.hexDigits 4 c.toNat
  else [c]

def jsonString (s : String) : String :=
  String.ofList ('"' :: s.toList.flatMap escapeJson ++ ['"'])

def jsonNumber : Double → String
  | .infinite true => "-Infinity"
  | .infinite false => "Infinity"
  | .undefined => "NaN"
  | x => x.toText

def newLine (depth : Nat) : String := "\n".pushn ' ' (2 * depth)

mutual

/-- The parts of the text of a value whose line starts at the given depth. -/
def jsonParts (depth : Nat) : Value → List String
  | null => ["null"]
  | bool true => ["true"]
  | bool false => ["false"]
  | int n => [toString n]
  | real x => [jsonNumber x]
  | other _ => [jsonString "..."]
  | text s => [jsonString s]
  | list [] => ["[]"]
  | list (v :: vs) =>
    "[" :: newLine (depth + 1) :: (jsonParts (depth + 1) v ++ jsonItems (depth + 1) vs ++
      [newLine depth, "]"])
  | record [] => ["\x7b\x7d"]
  | record ((key, v) :: fields) =>
    "\x7b" :: newLine (depth + 1) :: jsonString key :: ": " :: (jsonParts (depth + 1) v ++
      jsonFields (depth + 1) fields ++ [newLine depth, "\x7d"])

def jsonItems (depth : Nat) : List Value → List String
  | [] => []
  | v :: vs => "," :: newLine depth :: (jsonParts depth v ++ jsonItems depth vs)

def jsonFields (depth : Nat) : Fields → List String
  | [] => []
  | (key, v) :: fields =>
    "," :: newLine depth :: jsonString key :: ": " :: (jsonParts depth v ++ jsonFields depth fields)

end

def json (v : Value) : String := String.join (jsonParts 0 v)

end GroupSearch.Value
