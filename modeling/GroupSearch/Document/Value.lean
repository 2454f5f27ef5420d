import GroupSearch.Number.Double

namespace GroupSearch

inductive Value
  | null
  | bool (b : Bool)
  | int (n : Int)
  | real (x : Double)
  /-- A value that no field takes, such as a point in time or a set. Only whether it is empty is
  known of it. -/
  | other (isEmpty : Bool)
  | text (s : String)
  | list (items : List Value)
  | record (fields : List (String × Value))
  deriving Repr, Inhabited

namespace Value

abbrev Fields := List (String × Value)

def field? (fields : Fields) (key : String) : Option Value := fields.lookup key

def addField (key : String) (v : Value) (fields : Fields) : Fields :=
  if fields.any fun f ↦ f.1 == key then fields else (key, v) :: fields

def isBlank : Value → Bool
  | null => true
  | bool b => !b
  | int n => n == 0
  | real x => x.isZero
  | other isEmpty => isEmpty
  | text s => s.isEmpty
  | list items => items.isEmpty
  | record fields => fields.isEmpty

def orEmpty (v : Value) : Value := if v.isBlank then record [] else v

mutual

/-- Lays one value over another: fields of records are merged, and anything else is replaced. -/
def merge : Value → Value → Value
  | record base, record fields =>
    record (mergeFields fields base ++
      fields.filter fun f ↦ !base.any fun b ↦ b.1 == f.1)
  | _, v => v

def mergeFields (upper : Fields) : Fields → Fields
  | [] => []
  | (key, v) :: base =>
    (key, match field? upper key with
      | none => v
      | some w => merge v w) :: mergeFields upper base

end

end Value

end GroupSearch
