namespace GroupSearch.Text

def isParameter (c : Char) : Bool := '0' ≤ c && c ≤ '?'

def isIntermediate (c : Char) : Bool := ' ' ≤ c && c ≤ '/'

def isFinal (c : Char) : Bool := '@' ≤ c && c ≤ '~'

def behindSequence? (cs : List Char) : Option (List Char) :=
  match (cs.dropWhile isParameter).dropWhile isIntermediate with
  | c :: rest => if isFinal c then some rest else none
  | [] => none

theorem length_of_behindSequence? {cs rest : List Char} (h : behindSequence? cs = some rest) :
    rest.length < cs.length := by
  have hp := (List.dropWhile_sublist (l := cs) isParameter).length_le
  have hi := (List.dropWhile_sublist (l := cs.dropWhile isParameter) isIntermediate).length_le
  unfold behindSequence? at h
  split at h
  · next heq =>
    split at h
    · cases h
      rw [heq, List.length_cons] at hi
      omega
    · cases h
  · cases h

def dropSequences (cs : List Char) : List Char :=
  match cs with
  | [] => []
  | '\x1b' :: '[' :: cs =>
    match h : behindSequence? cs with
    | some rest =>
      have : rest.length < cs.length := length_of_behindSequence? h
      dropSequences rest
    | none => '\x1b' :: '[' :: dropSequences cs
  | c :: cs => c :: dropSequences cs
termination_by cs.length

def bare (s : String) : String := String.ofList (dropSequences s.toList)

end GroupSearch.Text
