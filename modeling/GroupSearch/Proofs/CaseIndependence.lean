import GroupSearch.Proofs.Address
import GroupSearch.Proofs.Folding
import Mathlib.Data.List.Forall2

namespace GroupSearch

open Text

namespace Account

/-- Accounts that differ in case only. An absent text counts as empty. -/
structure SameFolding (a b : Account) : Prop where
  id : a.id = b.id
  active : a.active = b.active
  username : fold (a.username.getD "") = fold (b.username.getD "")
  fullName : fold (a.fullName.getD "") = fold (b.fullName.getD "")
  email : fold (a.email.getD "") = fold (b.email.getD "")

theorem folds_eq {s t : Option String} (h : fold (s.getD "") = fold (t.getD "")) (key : String) :
    folds key s = folds key t := by
  rw [folds, folds, h]

theorem SameFolding.nameStarts_eq {a b : Account} (h : SameFolding a b) (key : String) :
    nameStarts key a = nameStarts key b := by
  unfold nameStarts
  rw [fold_eq_iff.1 h.fullName]

theorem idNumeral?_foldChars (cs : List Char) : idNumeral? (foldChars cs) = idNumeral? cs := by
  by_cases h : cs.all Char.isDigit = true
  · rw [foldChars_of_marks fun c hc ↦ isMark_of_isDigit c (List.all_eq_true.1 h c hc)]
  · have hcs : cs.all Char.isDigit = false := by simpa using h
    rw [idNumeral?_eq_none hcs, idNumeral?_eq_none (by rw [Caseless.isDigit.all, hcs])]

theorem foldChars_of_idNumeral? {cs : List Char} {n : Nat} (h : idNumeral? cs = some n) :
    foldChars cs = cs := by
  refine foldChars_of_marks fun c hc ↦ isMark_of_isDigit c ?_
  by_contra hdigit
  rw [idNumeral?_of_mem hc (Bool.eq_false_iff.2 hdigit)] at h
  cases h

theorem caseless_plain : Caseless fun c ↦ !(c == '<' || c == '>' || isBlank c) := by
  apply Caseless.not
  apply Caseless.of_marks
  intro c hc
  simp only [Bool.or_eq_true, beq_iff_eq] at hc
  rcases hc with (rfl | rfl) | hc
  · decide
  · decide
  · exact isMark_of_isBlank c hc

theorem exists_parts_foldChars {cs : List Char} :
    (∃ user host, user ≠ [] ∧ host ≠ [] ∧ foldChars cs = user ++ '@' :: host) ↔
      ∃ user host, user ≠ [] ∧ host ≠ [] ∧ cs = user ++ '@' :: host := by
  have hat : isMark '@' = true := by decide
  constructor
  · intro ⟨user, host, huser, hhost, h⟩
    obtain ⟨x, y, rfl, rfl, rfl⟩ := foldChars_eq_append_cons hat h
    exact ⟨x, y, mt foldChars_eq_nil.2 huser, mt foldChars_eq_nil.2 hhost, rfl⟩
  · intro ⟨user, host, huser, hhost, h⟩
    refine ⟨foldChars user, foldChars host, mt foldChars_eq_nil.1 huser,
      mt foldChars_eq_nil.1 hhost, ?_⟩
    rw [h, foldChars_append, foldChars_cons, foldChar_of_isMark hat, List.singleton_append]

theorem isBracketable_foldChars (cs : List Char) :
    isBracketable (foldChars cs) = isBracketable cs := by
  rw [isBracketable, isBracketable, caseless_plain.all, Bool.eq_iff_iff, Bool.and_eq_true,
    Bool.and_eq_true, List.contains_iff_mem, List.contains_iff_mem, mem_inner_iff, mem_inner_iff,
    exists_parts_foldChars]

theorem bracketedEmail?_foldChars (cs : List Char) :
    bracketedEmail? (foldChars cs) = (bracketedEmail? cs).map foldChars := by
  have hopen : isMark '<' = true := by decide
  have hclose : isMark '>' = true := by decide
  have hline : isMark '\n' = true := by decide
  apply Option.ext
  intro e
  rw [bracketedEmail?_eq_some_iff, Option.map_eq_some_iff]
  constructor
  · intro ⟨name, hcs, he, hn⟩
    obtain ⟨x, y, rfl, rfl, hy⟩ := foldChars_eq_append_cons hopen hcs
    obtain ⟨email, z, rfl, rfl, hz⟩ := foldChars_eq_append_cons hclose hy
    obtain rfl := foldChars_eq_nil.1 hz
    rw [← isBracketable_iff, isBracketable_foldChars, isBracketable_iff] at he
    rw [mem_foldChars hline] at hn
    exact ⟨email, bracketedEmail?_eq_some_iff.2 ⟨x, rfl, he, hn⟩, rfl⟩
  · intro ⟨email, hemail, he⟩
    obtain ⟨name, rfl, haddress, hn⟩ := bracketedEmail?_eq_some_iff.1 hemail
    subst he
    refine ⟨foldChars name, ?_, ?_, ?_⟩
    · simp [foldChars_append, foldChars_cons, foldChar_of_isMark hopen, foldChar_of_isMark hclose,
        foldChars_eq_nil.2]
    · rwa [← isBracketable_iff, isBracketable_foldChars, isBracketable_iff]
    · rwa [mem_foldChars hline]

end Account

namespace Directory

open Account

section SameFolding

variable {accounts accounts' : List Account} (h : List.Forall₂ SameFolding accounts accounts')

include h

theorem activeIds_eq_of_forall₂ {p q : Account → Bool}
    (hpq : ∀ a b, SameFolding a b → p a = q b) : activeIds accounts p = activeIds accounts' q := by
  have hids : (accounts.filter fun a ↦ a.active && p a).map Account.id =
      (accounts'.filter fun a ↦ a.active && q a).map Account.id := by
    induction h with
    | nil => rfl
    | @cons a b accounts accounts' hab _ ih =>
      have hkept : (a.active && p a) = (b.active && q b) := by rw [hab.active, hpq a b hab]
      rw [List.filter_cons, List.filter_cons, hkept]
      split
      · rw [List.map_cons, List.map_cons, hab.id, ih]
      · exact ih
  rw [activeIds, activeIds, hids]

theorem byFullName_eq (key : String) : byFullName accounts key = byFullName accounts' key := by
  have hexact : activeIds accounts (fun a ↦ folds key a.fullName) =
      activeIds accounts' fun a ↦ folds key a.fullName :=
    activeIds_eq_of_forall₂ h fun a b hab ↦ folds_eq hab.fullName key
  have hstarts : activeIds accounts (nameStarts key) = activeIds accounts' (nameStarts key) :=
    activeIds_eq_of_forall₂ h fun a b hab ↦ hab.nameStarts_eq key
  rw [byFullName, byFullName, hexact, hstarts]

theorem resolveTrimmed_eq {r r' : String} (hr : fold r = fold r') :
    resolveTrimmed accounts r = resolveTrimmed accounts' r' := by
  have hchars := fold_eq_iff.1 hr
  have hid : idNumeral? r.toList = idNumeral? r'.toList := by
    rw [← idNumeral?_foldChars, hchars, idNumeral?_foldChars]
  have hbracketed : (bracketedEmail? r.toList).map foldChars =
      (bracketedEmail? r'.toList).map foldChars := by
    rw [← bracketedEmail?_foldChars, hchars, bracketedEmail?_foldChars]
  have hat : r.toList.contains '@' = r'.toList.contains '@' := by
    rw [Bool.eq_iff_iff, List.contains_iff_mem, List.contains_iff_mem,
      ← mem_foldChars (by decide), hchars, mem_foldChars (by decide)]
  have hemail (key : String) : activeIds accounts (fun a ↦ folds key a.email) =
      activeIds accounts' fun a ↦ folds key a.email :=
    activeIds_eq_of_forall₂ h fun a b hab ↦ folds_eq hab.email key
  have husername (key : String) : activeIds accounts (fun a ↦ folds key a.username) =
      activeIds accounts' fun a ↦ folds key a.username :=
    activeIds_eq_of_forall₂ h fun a b hab ↦ folds_eq hab.username key
  have hnumber (n digits : Nat) : byNumber accounts n digits = byNumber accounts' n digits := by
    rw [byNumber, byNumber, activeIds_eq_of_forall₂ h fun a b hab ↦ by rw [hab.id]]
  unfold resolveTrimmed
  cases hi : idNumeral? r.toList with
  | some n =>
    have heq : r = r' := by
      rw [hi] at hid
      rw [foldChars_of_idNumeral? hi, foldChars_of_idNumeral? hid.symm] at hchars
      exact String.toList_inj.1 hchars
    rw [← heq, hi]
    exact hnumber n r.length
  | none =>
    rw [← hid, hi]
    cases hb : bracketedEmail? r.toList <;> cases hb' : bracketedEmail? r'.toList <;>
      rw [hb, hb'] at hbracketed
    case none.none =>
      dsimp only
      rw [hr, hat, hemail, husername, byFullName_eq h]
    case some.some e e' =>
      have he : fold (String.ofList e) = fold (String.ofList e') := by
        rw [fold_eq_iff, String.toList_ofList, String.toList_ofList]
        exact Option.some.inj hbracketed
      dsimp only
      rw [he, hemail]
    case none.some => cases hbracketed
    case some.none => cases hbracketed

theorem resolve_eq {r r' : String} (hr : fold r = fold r') :
    resolve accounts r = resolve accounts' r' := by
  have htrim : foldChars (trim r).toList = foldChars (trim r').toList := by
    rw [trim, trim, String.toList_ofList, String.toList_ofList, foldChars_trimChars,
      foldChars_trimChars, fold_eq_iff.1 hr]
  have hempty : (trim r).isEmpty = (trim r').isEmpty := by
    rw [Bool.eq_iff_iff, String.isEmpty_iff, String.isEmpty_iff, ← String.toList_eq_nil_iff,
      ← String.toList_eq_nil_iff, ← foldChars_eq_nil, htrim, foldChars_eq_nil]
  rw [resolve, resolve, hempty, resolveTrimmed_eq h (fold_eq_iff.2 htrim)]

end SameFolding

/-- References that differ in case only find the same ids, also among accounts that differ in case
only. -/
theorem findAccounts_regardless_of_case {accounts accounts' : List Account}
    (h : List.Forall₂ SameFolding accounts accounts') {r r' : String} (hr : fold r = fold r') :
    findAccounts accounts r = findAccounts accounts' r' := by
  rw [findAccounts, findAccounts, resolve_eq h hr]

def streetAccounts : List Account :=
  [⟨5, some "STRASSE", none, some "a@x", true⟩, ⟨6, none, some "Ann Straßer", none, true⟩,
    ⟨7, some "bob", some "Straßers", none, false⟩]

def respelledAccounts : List Account :=
  [⟨5, some "straße", some "", some "A@X", true⟩, ⟨6, some "", some "ann STRASSER", none, true⟩,
    ⟨7, some "Bob", some "strassers", none, false⟩]

theorem streetAccounts_sameFolding : List.Forall₂ SameFolding streetAccounts respelledAccounts := by
  refine .cons ?_ (.cons ?_ (.cons ?_ .nil)) <;> constructor <;> decide +kernel

/-- A word of a full name, spelled with the sharp s and with two capitals in its place. -/
theorem findAccounts_regardless_of_case_street :
    List.Forall₂ SameFolding streetAccounts respelledAccounts ∧
      fold "straßer " = fold "STRASSER " ∧ findAccounts streetAccounts "straßer " = .ok [6] ∧
      findAccounts respelledAccounts "STRASSER " = .ok [6] := by
  have hr : fold "straßer " = fold "STRASSER " := by decide +kernel
  have hfound : findAccounts streetAccounts "straßer " = .ok [6] := by decide +kernel
  refine ⟨streetAccounts_sameFolding, hr, hfound, ?_⟩
  rw [← findAccounts_regardless_of_case streetAccounts_sameFolding hr, hfound]

end Directory

end GroupSearch
