import GroupSearch.Document.Json
import GroupSearch.Failure
import GroupSearch.Predicate.Document
import GroupSearch.Predicate.Outline

namespace GroupSearch

abbrev Outcome := Except Failure Predicate

inductive OutputFormat
  | text
  | json
  deriving DecidableEq, Repr

structure UnknownFormat where
  name : String
  deriving DecidableEq, Repr

def UnknownFormat.message (e : UnknownFormat) : String :=
  s!"Unsupported output format: {e.name}"

def OutputFormat.ofName? : String → Except UnknownFormat OutputFormat
  | "text" => .ok .text
  | "json" => .ok .json
  | name => .error ⟨name⟩

namespace Outcome

open Value

def text : Outcome → String
  | .error f => s!"Error ({f.kind.label}): {f.message}"
  | .ok p =>
    let limit := match p.effectiveLimit with
      | none => "-"
      | some n => toString n
    "\n".intercalate
      (("Query: " ++ p.expression) :: "Tree:" :: (p.outline 1 ++ ["Limit: " ++ limit]))

def fields : Outcome → Fields
  | .error f =>
    [("ok", bool false),
      ("error", record [("kind", .text f.kind.label), ("message", .text f.message)])]
  | .ok p =>
    [("ok", bool true), ("expression", .text p.expression), ("predicate", p.document),
      ("limit", match p.effectiveLimit with
        | none => null
        | some n => int n)]

def document (echo : Option String) (o : Outcome) : Value :=
  record ((echo.toList.map fun q ↦ ("query", .text q)) ++ o.fields)

def render (o : Outcome) (format : OutputFormat) (echo : Option String) : String :=
  match format with
  | .text => o.text
  | .json => (o.document echo).json

end Outcome

end GroupSearch
