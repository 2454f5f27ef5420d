import GroupSearch.Document.Json
import GroupSearch.Proofs.Delimited
import GroupSearch.Proofs.Fields
import GroupSearch.Text.Decimal

namespace GroupSearch.Value

open Text

def readEscaped : List Char → Option (Char × List Char)
  | [] | '"' :: _ => none
  | '\\' :: 'n' :: cs => some ('\n', cs)
  | '\\' :: 'r' :: cs => some ('\r', cs)
  | '\\' :: 't' :: cs => some ('\t', cs)
  | '\\' :: 'b' :: cs => some ('\x08', cs)
  | '\\' :: 'f' :: cs => some ('\x0c', cs)
  | '\\' :: 'u' :: cs =>
    ((List.range 0x20).find? fun n ↦ hexDigits 4 n == cs.take 4).map fun n ↦
      (Char.ofNat n, cs.drop 4)
  | '\\' :: c :: cs => some (c, cs)
  | c :: cs => some (c, cs)

theorem find?_hexDigits :
    ∀ n < 0x20, (List.range 0x20).find? (fun m ↦ hexDigits 4 m == hexDigits 4 n) = some n := by
  decide

theorem readEscaped_escapeJson (c : Char) (r : List Char) :
    readEscaped (escapeJson c ++ r) = some (c, r) := by
  unfold escapeJson
  split
  case isTrue h => rcases h with rfl | rfl <;> rfl
  split
  case isTrue h => exact h ▸ rfl
  split
  case isTrue h => exact h ▸ rfl
  split
  case isTrue h => exact h ▸ rfl
  split
  case isTrue h => exact h ▸ rfl
  split
  case isTrue h => exact h ▸ rfl
  split
  case isTrue h =>
    have htake : (hexDigits 4 c.toNat ++ r).take 4 = hexDigits 4 c.toNat := List.take_left' rfl
    have hdrop : (hexDigits 4 c.toNat ++ r).drop 4 = r := List.drop_left' rfl
    simp only [List.cons_append, readEscaped, htake, hdrop, find?_hexDigits c.toNat h,
      Option.map_some, Char.ofNat_toNat]
  case isFalse hplain _ _ _ _ _ _ =>
    rw [not_or] at hplain
    rw [List.singleton_append, readEscaped.eq_def]
    split <;> simp_all

theorem escapes_append_inj {xs ys r s : List Char}
    (h : xs.flatMap escapeJson ++ '"' :: r = ys.flatMap escapeJson ++ '"' :: s) :
    xs = ys ∧ r = s := by
  have hnone (cs : List Char) : readEscaped ('"' :: cs) = none := rfl
  induction xs generalizing ys with
  | nil =>
    cases ys with
    | nil => exact ⟨rfl, (List.cons.inj h).2⟩
    | cons d ys =>
      have hread := congrArg readEscaped h
      simp [hnone, readEscaped_escapeJson] at hread
  | cons c xs ih =>
    have hread := congrArg readEscaped h
    cases ys with
    | nil => simp [hnone, readEscaped_escapeJson] at hread
    | cons d ys =>
      simp only [List.flatMap_cons, List.append_assoc, readEscaped_escapeJson, Option.some_inj,
        Prod.mk.injEq] at hread
      obtain ⟨rfl, rfl⟩ := ih hread.2
      exact ⟨hread.1 ▸ rfl, rfl⟩

theorem jsonString_append_inj {a b : String} {r s : List Char}
    (h : (jsonString a).toList ++ r = (jsonString b).toList ++ s) : a = b ∧ r = s := by
  simp only [jsonString, String.toList_ofList, List.cons_append, List.append_assoc,
    List.nil_append, List.cons.injEq, true_and] at h
  obtain ⟨hchars, hrest⟩ := escapes_append_inj h
  exact ⟨String.toList_inj.1 hchars, hrest⟩

def isNumeral (c : Char) : Bool := c == '-' || c.isDigit

theorem isNumeral_of_mem_natural {n : Nat} {c : Char} (h : c ∈ (toString n).toList) :
    isNumeral c = true := by
  have hdigit : c.isDigit = true := Nat.isDigit_of_mem_toDigits (by decide) (by decide)
    (show c ∈ Nat.toDigits 10 n from Nat.toList_repr ▸ h)
  simp [isNumeral, hdigit]

theorem isNumeral_of_mem_integer {n : Int} {c : Char} (h : c ∈ (toString n).toList) :
    isNumeral c = true := by
  cases n with
  | ofNat n => exact isNumeral_of_mem_natural h
  | negSucc n =>
    rw [toList_negSucc, List.mem_cons] at h
    rcases h with rfl | h
    · rfl
    · exact isNumeral_of_mem_natural h

inductive Exact : Value → Prop
  | null : Exact null
  | bool (b : Bool) : Exact (bool b)
  | int (n : Int) : Exact (int n)
  | text (s : String) : Exact (text s)
  | list {items : List Value} : (∀ v ∈ items, Exact v) → Exact (list items)
  | record {fields : Fields} : (∀ f ∈ fields, Exact f.2) → Exact (record fields)

attribute [simp] Exact.null Exact.bool Exact.int Exact.text

@[simp] theorem exact_list {items : List Value} :
    (list items).Exact ↔ ∀ v ∈ items, v.Exact := by
  refine ⟨fun h ↦ ?_, .list⟩
  cases h with
  | list hitems => exact hitems

@[simp] theorem exact_record {fields : Fields} :
    (record fields).Exact ↔ ∀ f ∈ fields, f.2.Exact := by
  refine ⟨fun h ↦ ?_, .record⟩
  cases h with
  | record hfields => exact hfields

def jsonChars (depth : Nat) (v : Value) : List Char := (jsonParts depth v).flatMap String.toList

theorem jsonChars_int (depth : Nat) (n : Int) : jsonChars depth (int n) = (toString n).toList :=
  List.append_nil _

theorem jsonChars_text (depth : Nat) (s : String) :
    jsonChars depth (text s) = (jsonString s).toList :=
  List.append_nil _

def shapeOf? (c : Char) : Option Shape :=
  if c = '"' then some .string
  else if c = '[' then some .list
  else if c = '\x7b' then some .object
  else if c = 't' ∨ c = 'f' then some .boolean
  else if isNumeral c then some .integer
  else none

theorem integer_append_inj {m n : Int} {r s : List Char} (hr : EndsRun isNumeral r)
    (hs : EndsRun isNumeral s) (h : (toString m).toList ++ r = (toString n).toList ++ s) :
    m = n ∧ r = s := by
  obtain ⟨hchars, hrest⟩ := run_append_inj (fun _ ↦ isNumeral_of_mem_integer)
    (fun _ ↦ isNumeral_of_mem_integer) hr hs h
  exact ⟨toString_integer_injective hchars, hrest⟩

theorem shapeOf?_of_isNumeral {c : Char} (h : isNumeral c = true) : shapeOf? c = some .integer := by
  have hne (d : Char) (hd : isNumeral d = false) : c ≠ d := by
    rintro rfl
    cases h.symm.trans hd
  simp [shapeOf?, h, hne '"' rfl, hne '[' rfl, hne '\x7b' rfl, hne 't' rfl, hne 'f' rfl]

theorem shape?_of_jsonChars {v : Value} (hv : v.Exact) (depth : Nat) (r : List Char) :
    (jsonChars depth v ++ r).head?.bind shapeOf? = v.shape? := by
  cases hv with
  | null => rfl
  | bool b => cases b <;> rfl
  | int n =>
    rw [jsonChars_int]
    cases hcs : (toString n).toList with
    | nil => exact (toList_integer_ne_nil n hcs).elim
    | cons c cs => exact shapeOf?_of_isNumeral (isNumeral_of_mem_integer (hcs ▸ List.mem_cons_self))
  | text s => simp [jsonChars, jsonParts, jsonString, shapeOf?, shape?]
  | @list items _ => cases items <;> simp [jsonChars, jsonParts, shapeOf?, shape?]
  | @record fields _ => cases fields <;> simp [jsonChars, jsonParts, shapeOf?, shape?]

theorem shape?_eq_of_jsonChars {v w : Value} {depth : Nat} {r s : List Char} (hv : v.Exact)
    (hw : w.Exact) (h : jsonChars depth v ++ r = jsonChars depth w ++ s) : v.shape? = w.shape? := by
  rw [← shape?_of_jsonChars hv depth r, ← shape?_of_jsonChars hw depth s, h]

section Blocks

variable {α : Type} {write : α → List Char} {valid : α → Prop} {a : α} {as bs : List α}
  {depth : Nat} {opening closing : Char} {r s : List Char}

/-- The text of an item tells it from every other, and says where it ends. -/
def Delimits (write : α → List Char) (valid : α → Prop) (a : α) : Prop :=
  ∀ {b : α} {r s : List Char}, valid b → EndsRun isNumeral r → EndsRun isNumeral s →
    write a ++ r = write b ++ s → a = b ∧ r = s

def further (depth : Nat) (write : α → List Char) (as : List α) : List Char :=
  as.flatMap fun a ↦ ',' :: ((newLine depth).toList ++ write a)

def block (opening closing : Char) (depth : Nat) (write : α → List Char) : List α → List Char
  | [] => [opening, closing]
  | a :: as => opening :: ((newLine (depth + 1)).toList ++ (write a ++
      (further (depth + 1) write as ++ ((newLine depth).toList ++ [closing]))))

theorem newLine_eq (depth : Nat) :
    (newLine depth).toList = '\n' :: List.replicate (2 * depth) ' ' := toList_pushn ..

theorem further_cons (depth : Nat) (write : α → List Char) (a : α) (as : List α) (r : List Char) :
    further depth write (a :: as) ++ r =
      ',' :: ((newLine depth).toList ++ (write a ++ (further depth write as ++ r))) := by
  simp [further]

theorem endsRun_further (as : List α) (r : List Char) :
    EndsRun isNumeral (further depth write as ++ '\n' :: r) := by
  cases as with
  | nil => exact endsRun_cons _ rfl
  | cons a as =>
    rw [further_cons]
    exact endsRun_cons _ rfl

theorem further_append_inj (ha : ∀ a ∈ as, Delimits write valid a) (hb : ∀ b ∈ bs, valid b)
    (h : further depth write as ++ '\n' :: r = further depth write bs ++ '\n' :: s) :
    as = bs ∧ r = s := by
  induction as generalizing bs with
  | nil =>
    cases bs with
    | nil => exact ⟨rfl, (List.cons.inj h).2⟩
    | cons b bs => simp [further] at h
  | cons a as ih =>
    cases bs with
    | nil => simp [further] at h
    | cons b bs =>
      rw [further_cons, further_cons, List.cons.injEq, List.append_cancel_left_eq] at h
      obtain ⟨rfl, hrest⟩ := ha a List.mem_cons_self (hb b List.mem_cons_self)
        (endsRun_further as r) (endsRun_further bs s) h.2
      obtain ⟨rfl, rfl⟩ := ih (fun c hc ↦ ha c (List.mem_cons_of_mem _ hc))
        (fun c hc ↦ hb c (List.mem_cons_of_mem _ hc)) hrest
      exact ⟨rfl, rfl⟩

theorem block_cons (a : α) (as : List α) (r : List Char) :
    block opening closing depth write (a :: as) ++ r =
      opening :: '\n' :: (List.replicate (2 * (depth + 1)) ' ' ++ (write a ++
        (further (depth + 1) write as ++
          '\n' :: (List.replicate (2 * depth) ' ' ++ closing :: r)))) := by
  simp [block, newLine_eq]

theorem block_append_inj (ha : ∀ a ∈ as, Delimits write valid a) (hb : ∀ b ∈ bs, valid b)
    (hclosing : closing ≠ '\n')
    (h : block opening closing depth write as ++ r = block opening closing depth write bs ++ s) :
    as = bs ∧ r = s := by
  cases as with
  | nil =>
    cases bs with
    | nil => simpa [block] using h
    | cons b bs =>
      rw [block_cons] at h
      cases hclosing (List.cons.inj (List.cons.inj h).2).1
  | cons a as =>
    cases bs with
    | nil =>
      rw [block_cons] at h
      cases hclosing (List.cons.inj (List.cons.inj h).2).1.symm
    | cons b bs =>
      rw [block_cons, block_cons, List.cons.injEq, List.cons.injEq,
        List.append_cancel_left_eq] at h
      obtain ⟨rfl, hrest⟩ := ha a List.mem_cons_self (hb b List.mem_cons_self)
        (endsRun_further as _) (endsRun_further bs _) h.2.2
      obtain ⟨rfl, hclose⟩ := further_append_inj (fun c hc ↦ ha c (List.mem_cons_of_mem _ hc))
        (fun c hc ↦ hb c (List.mem_cons_of_mem _ hc)) hrest
      rw [List.append_cancel_left_eq, List.cons.injEq] at hclose
      exact ⟨rfl, hclose.2⟩

end Blocks

def fieldChars (depth : Nat) (f : String × Value) : List Char :=
  (jsonString f.1).toList ++ ':' :: ' ' :: jsonChars depth f.2

theorem jsonItems_eq (depth : Nat) (vs : List Value) :
    (jsonItems depth vs).flatMap String.toList = further depth (jsonChars depth) vs := by
  induction vs with
  | nil => rfl
  | cons v vs ih => simpa [jsonItems, jsonChars, further] using ih

theorem jsonFields_eq (depth : Nat) (fields : Fields) :
    (jsonFields depth fields).flatMap String.toList = further depth (fieldChars depth) fields := by
  induction fields with
  | nil => rfl
  | cons f fields ih => simpa [jsonFields, jsonChars, fieldChars, further] using ih

theorem jsonChars_list (depth : Nat) (vs : List Value) :
    jsonChars depth (list vs) = block '[' ']' depth (jsonChars (depth + 1)) vs := by
  cases vs with
  | nil => rfl
  | cons v vs => simp [jsonChars, jsonParts, block, ← jsonItems_eq]

theorem jsonChars_record (depth : Nat) (fields : Fields) :
    jsonChars depth (record fields) =
      block '\x7b' '\x7d' depth (fieldChars (depth + 1)) fields := by
  cases fields with
  | nil => rfl
  | cons f fields => simp [jsonChars, jsonParts, block, fieldChars, ← jsonFields_eq]

theorem fieldChars_delimits {f : String × Value} {depth : Nat}
    (hf : Delimits (jsonChars depth) Exact f.2) :
    Delimits (fieldChars depth) (fun f ↦ f.2.Exact) f := by
  intro g r s hg hr hs h
  obtain ⟨key, v⟩ := f
  obtain ⟨key', w⟩ := g
  simp only [fieldChars, List.append_assoc, List.cons_append] at h
  obtain ⟨rfl, hrest⟩ := jsonString_append_inj h
  simp only [List.cons.injEq, true_and] at hrest
  obtain ⟨rfl, rfl⟩ := hf hg hr hs hrest
  exact ⟨rfl, rfl⟩

theorem bool_append_inj {b c : Bool} {depth : Nat} {r s : List Char}
    (h : jsonChars depth (bool b) ++ r = jsonChars depth (bool c) ++ s) : b = c ∧ r = s := by
  by_cases hbc : b = c
  · subst hbc
    exact ⟨rfl, List.append_cancel_left h⟩
  · cases b <;> cases c <;> simp [jsonChars, jsonParts] at h hbc

theorem jsonChars_delimits {v : Value} (hv : v.Exact) (depth : Nat) :
    Delimits (jsonChars depth) Exact v := by
  induction hv generalizing depth with
  | null =>
    intro w r s hw hr hs h
    have hshape := shape?_eq_of_jsonChars .null hw h
    cases hw <;> cases hshape
    exact ⟨rfl, List.append_cancel_left h⟩
  | bool b =>
    intro w r s hw hr hs h
    have hshape := shape?_eq_of_jsonChars (.bool b) hw h
    cases hw <;> cases hshape
    exact (bool_append_inj h).imp_left (congrArg bool)
  | int n =>
    intro w r s hw hr hs h
    have hshape := shape?_eq_of_jsonChars (.int n) hw h
    cases hw <;> cases hshape
    rw [jsonChars_int, jsonChars_int] at h
    exact (integer_append_inj hr hs h).imp_left (congrArg int)
  | text a =>
    intro w r s hw hr hs h
    have hshape := shape?_eq_of_jsonChars (.text a) hw h
    cases hw <;> cases hshape
    rw [jsonChars_text, jsonChars_text] at h
    exact (jsonString_append_inj h).imp_left (congrArg text)
  | list hitems ih =>
    intro w r s hw hr hs h
    have hshape := shape?_eq_of_jsonChars (.list hitems) hw h
    cases w <;> cases hshape
    rw [jsonChars_list, jsonChars_list] at h
    exact (block_append_inj (fun v hv ↦ ih v hv _) (exact_list.1 hw) (by decide) h).imp_left
      (congrArg list)
  | record hfields ih =>
    intro w r s hw hr hs h
    have hshape := shape?_eq_of_jsonChars (.record hfields) hw h
    cases w <;> cases hshape
    rw [jsonChars_record, jsonChars_record] at h
    exact (block_append_inj (fun f hf ↦ fieldChars_delimits (ih f hf _)) (exact_record.1 hw)
      (by decide) h).imp_left (congrArg record)

theorem json_inj {v w : Value} (hv : v.Exact) (hw : w.Exact) (h : v.json = w.json) : v = w := by
  have hchars : jsonChars 0 v ++ [] = jsonChars 0 w ++ [] := by
    simpa [json, String.toList_join, jsonChars] using congrArg String.toList h
  exact (jsonChars_delimits hv 0 hw endsRun_nil endsRun_nil hchars).1

end GroupSearch.Value
