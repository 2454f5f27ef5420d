import GroupSearch.Predicate.Basic

namespace GroupSearch.Predicate

def indented (depth : Nat) (line : String) : String :=
  "".pushn ' ' (2 * depth) ++ line

mutual

def outline (depth : Nat) : Predicate → List String
  | .leaf a => [indented depth a.expression]
  | .all p ps => indented depth "AND" :: (outline (depth + 1) p ++ outlines (depth + 1) ps)
  | .any p ps => indented depth "OR" :: (outline (depth + 1) p ++ outlines (depth + 1) ps)
  | .not p => indented depth "NOT" :: outline (depth + 1) p

def outlines (depth : Nat) : List Predicate → List String
  | [] => []
  | p :: ps => outline depth p ++ outlines depth ps

end

end GroupSearch.Predicate
