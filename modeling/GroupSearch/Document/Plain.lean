import GroupSearch.Document.Value
import GroupSearch.Number.Notation
import GroupSearch.Text.Quoted

namespace GroupSearch.Value

mutual

def quotedParts : Value → List String
  | null => ["None"]
  | bool true => ["True"]
  | bool false => ["False"]
  | int n => [toString n]
  | real x => [x.toText]
  | other _ => ["..."]
  | text s => [Text.quoted s]
  | list [] => ["[]"]
  | list (v :: vs) => "[" :: (quotedParts v ++ quotedItems vs ++ ["]"])
  | record [] => ["\x7b\x7d"]
  | record ((key, v) :: fields) =>
    "\x7b" :: Text.quoted key :: ": " :: (quotedParts v ++ quotedFields fields ++ ["\x7d"])

def quotedItems : List Value → List String
  | [] => []
  | v :: vs => ", " :: (quotedParts v ++ quotedItems vs)

def quotedFields : Fields → List String
  | [] => []
  | (key, v) :: fields =>
    ", " :: Text.quoted key :: ": " :: (quotedParts v ++ quotedFields fields)

end

def quoted (v : Value) : String := String.join (quotedParts v)

def plain : Value → String
  | text s => s
  | v => v.quoted

end GroupSearch.Value
