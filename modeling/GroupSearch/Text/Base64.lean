namespace GroupSearch.Text

def base64Alphabet : List Char :=
  "ABCDEFGHIJKLMNOPQRSTUVWXYZabcdefghijklmnopqrstuvwxyz0123456789+/".toList

structure Base64Group where
  /-- Values of six bits, the last first. -/
  digits : List Nat
  /-- The padding marks behind the last of them. -/
  padding : Nat

def nextByte : List Nat → Nat → List Nat
  | [a], b => [(4 * a + b / 16) % 256]
  | [b, _], c => [(16 * b + c / 4) % 256]
  | [c, _, _], d => [(64 * c + d) % 256]
  | _, _ => []

def decodeGroup (group : Base64Group) : List Char → Option (List Nat)
  | [] => if group.digits.isEmpty then some [] else none
  | '=' :: cs =>
    if 2 ≤ group.digits.length then
      if 4 ≤ group.digits.length + group.padding + 1 then some []
      else decodeGroup { group with padding := group.padding + 1 } cs
    else decodeGroup group cs
  | c :: cs =>
    if base64Alphabet.contains c then
      let value := base64Alphabet.idxOf c
      let digits := if group.digits.length = 3 then [] else value :: group.digits
      (decodeGroup ⟨digits, 0⟩ cs).map (nextByte group.digits value ++ ·)
    else decodeGroup group cs

def decodeBase64 (cs : List Char) : Option (List Nat) := decodeGroup ⟨[], 0⟩ cs

end GroupSearch.Text
