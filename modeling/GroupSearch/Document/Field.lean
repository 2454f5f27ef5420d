import GroupSearch.Document.Value

namespace GroupSearch

inductive Shape
  | object
  | list
  | string
  | boolean
  | integer
  deriving DecidableEq, Repr

def Shape.phrase : Shape → String
  | object => "an object"
  | list => "a list"
  | string => "a string"
  | boolean => "a boolean"
  | integer => "an integer"

inductive FieldError
  | missing (key : String)
  | mismatch (key : String) (shape : Shape)
  deriving DecidableEq, Repr

def FieldError.message : FieldError → String
  | missing key => s!"Missing required config: {key}"
  | mismatch key shape => s!"{key} must be {shape.phrase}"

namespace Value

def asRecord (key : String) : Value → Except FieldError Fields
  | record fields => .ok fields
  | _ => .error (.mismatch key .object)

def asList (key : String) : Value → Except FieldError (List Value)
  | list items => .ok items
  | _ => .error (.mismatch key .list)

def asText (key : String) : Value → Except FieldError String
  | text s => .ok s
  | _ => .error (.mismatch key .string)

def asOptionalText (key : String) : Value → Except FieldError (Option String)
  | null => .ok none
  | v => (v.asText key).map some

def asBool (key : String) : Value → Except FieldError Bool
  | bool b => .ok b
  | _ => .error (.mismatch key .boolean)

def asInt (key : String) : Value → Except FieldError Int
  | int n => .ok n
  | _ => .error (.mismatch key .integer)

def required (fields : Fields) (name key : String) : Except FieldError Value :=
  match field? fields name with
  | some v => .ok v
  | none => .error (.missing key)

def optional (fields : Fields) (name : String) (default : Value) : Value :=
  (field? fields name).getD default

/-- The records of a section; an absent or null section counts as empty. -/
def section? (fields : Fields) (name : String) : Except FieldError (Option Fields) :=
  match field? fields name with
  | none | some null => .ok none
  | some v => (v.asRecord name).map some

end Value

end GroupSearch
