import GroupSearch.Document.Value
import GroupSearch.Predicate.Basic

namespace GroupSearch

open Value

def Atom.document : Atom → Value
  | .field name value =>
    record [("type", text "field"), ("field", text name),
      ("match", text (if matchesSubstring name then "substring" else "exact")),
      ("value", text value)]
  | .member id => record [("type", text "member"), ("account_id", int id)]
  | .subgroup uuid => record [("type", text "subgroup"), ("group_uuid", text uuid)]
  | .visibleToAll => record [("type", text "is"), ("value", text "visibletoall")]
  | .limit cap => record [("type", text "limit"), ("limit", int cap.count)]

namespace Predicate

mutual

def document : Predicate → Value
  | .leaf a => a.document
  | .all p ps =>
    record [("type", text "and"), ("children", list (document p :: documents ps))]
  | .any p ps =>
    record [("type", text "or"), ("children", list (document p :: documents ps))]
  | .not p => record [("type", text "not"), ("child", document p)]

def documents : List Predicate → List Value
  | [] => []
  | p :: ps => document p :: documents ps

end

end Predicate

end GroupSearch
