import GroupSearch.Directory.Record
import GroupSearch.Text.Blank
import GroupSearch.Text.CaseFold

namespace GroupSearch

/-- Groups by uuid. Of groups with one uuid the last counts. -/
structure GroupIndex where
  groups : List Group
  deriving DecidableEq, Repr

namespace GroupIndex

def get? (index : GroupIndex) (uuid : String) : Option Group :=
  index.groups.reverse.find? fun g ↦ g.uuid == uuid

end GroupIndex

/-- The items that a bound leaves of a list: the first ones, or for a negative bound all but so many
at the end. -/
def takeBounded {α : Type} (bound : Int) (items : List α) : List α :=
  items.take (if bound < 0 then items.length - bound.natAbs else bound.toNat)

def defaultSuggestions : Int := 10

namespace Directory

/-- Groups whose names start with the given text, without regard to case, ordered by name. -/
def suggest (groups : List Group) (bound : Int) (name : String) : List Reference :=
  let start := Text.foldChars (Text.trimChars name.toList)
  if start.isEmpty then []
  else
    let found := groups.filter fun g ↦ start.isPrefixOf (Text.foldChars g.name.toList)
    let sorted := found.mergeSort fun g h ↦ Text.fold g.name ≤ Text.fold h.name
    (takeBounded bound sorted).map Group.reference

end Directory

def Reference.isExact (r : Reference) (wanted : String) : Bool :=
  Text.fold r.name == Text.fold wanted || r.uuid == wanted

/-- A single suggestion is taken as it is; of several only an exact one is. -/
def bestSuggestion (suggestions : List Reference) (wanted : String) : Option Reference :=
  match suggestions with
  | [r] => some r
  | rs => rs.find? (·.isExact wanted)

end GroupSearch
