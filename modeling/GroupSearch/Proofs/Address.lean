import GroupSearch.Proofs.SelfReference
import Mathlib.Data.List.Basic
import Mathlib.Data.List.TakeWhile

namespace GroupSearch

namespace Account

/-- An email as it may stand in brackets: text on both sides of an `@`, without blanks. -/
structure IsAddress (email : List Char) : Prop where
  plain : ∀ c ∈ email, c ≠ '<' ∧ c ≠ '>' ∧ Text.isBlank c = false
  parts : ∃ user host, user ≠ [] ∧ host ≠ [] ∧ email = user ++ '@' :: host

theorem mem_inner_iff {m : Char} {cs : List Char} : m ∈ (cs.drop 1).dropLast ↔
    ∃ front back, front ≠ [] ∧ back ≠ [] ∧ cs = front ++ m :: back := by
  constructor
  · intro h
    cases cs with
    | nil => simp at h
    | cons c cs =>
      rcases List.eq_nil_or_concat' cs with rfl | ⟨inner, z, rfl⟩
      · simp at h
      · rw [List.drop_one, List.tail_cons, List.dropLast_concat] at h
        obtain ⟨x, y, rfl⟩ := List.append_of_mem h
        exact ⟨c :: x, y ++ [z], by simp, by simp, by simp⟩
  · intro ⟨front, back, hfront, hback, h⟩
    obtain ⟨c, front, rfl⟩ := List.exists_cons_of_ne_nil hfront
    obtain ⟨back, z, rfl⟩ := (List.eq_nil_or_concat' back).resolve_left hback
    rw [h, List.drop_one, List.cons_append, List.tail_cons, ← List.cons_append, ← List.append_assoc,
      List.dropLast_concat]
    simp

theorem isBracketable_iff {cs : List Char} : isBracketable cs = true ↔ IsAddress cs := by
  rw [isBracketable, Bool.and_eq_true, List.contains_iff_mem, mem_inner_iff]
  constructor
  · intro ⟨hplain, hparts⟩
    refine ⟨?_, hparts⟩
    intro c hc
    simpa [and_assoc] using List.all_eq_true.1 hplain c hc
  · intro h
    refine ⟨?_, h.parts⟩
    rw [List.all_eq_true]
    intro c hc
    simpa [and_assoc] using h.plain c hc

theorem IsAddress.not_mem {email : List Char} (h : IsAddress email) : '<' ∉ email := by
  intro hmem
  exact (h.plain _ hmem).1 rfl

theorem IsAddress.at_mem {email : List Char} (h : IsAddress email) : '@' ∈ email := by
  obtain ⟨user, host, -, -, rfl⟩ := h.parts
  simp

/-- What stands in the last pair of brackets, if it is an address and the name fits on a line. -/
theorem bracketedEmail?_append (name : List Char) {email : List Char} (h : '<' ∉ email) :
    bracketedEmail? (name ++ '<' :: (email ++ ['>'])) =
      if isBracketable email && !name.contains '\n' then some email else none := by
  have hreverse : (name ++ '<' :: (email ++ ['>'])).reverse =
      '>' :: (email.reverse ++ '<' :: name.reverse) := by simp
  have hne : ∀ c ∈ email.reverse, (decide (c ≠ '<')) = true := by
    intro c hc
    rw [decide_eq_true_eq]
    rintro rfl
    exact h (List.mem_reverse.1 hc)
  have htake : (email.reverse ++ '<' :: name.reverse).takeWhile (· ≠ '<') = email.reverse := by
    rw [List.takeWhile_append_of_pos hne]
    simp
  have hdrop : (email.reverse ++ '<' :: name.reverse).dropWhile (· ≠ '<') =
      '<' :: name.reverse := by
    rw [List.dropWhile_append_of_pos hne]
    simp
  simp only [bracketedEmail?, hreverse, htake, hdrop, List.reverse_reverse]
  simp

theorem bracketedEmail?_eq_some_iff {cs email : List Char} : bracketedEmail? cs = some email ↔
    ∃ name, cs = name ++ '<' :: (email ++ ['>']) ∧ IsAddress email ∧ '\n' ∉ name := by
  constructor
  · intro h
    unfold bracketedEmail? at h
    split at h
    case h_2 => cases h
    case h_1 r hr =>
      dsimp only at h
      split at h
      case h_2 => cases h
      case h_1 c name hd =>
        split at h
        case isFalse => cases h
        case isTrue hb =>
          cases h
          have hc : c = '<' := by
            have hn := List.head?_dropWhile_not (· ≠ '<') r
            rw [hd] at hn
            simpa using hn
          subst hc
          have hr' : r = r.takeWhile (· ≠ '<') ++ '<' :: name := by
            rw [← hd, List.takeWhile_append_dropWhile]
          have hcs : cs = ('>' :: r).reverse := by rw [← hr, List.reverse_reverse]
          generalize r.takeWhile (· ≠ '<') = e at hb hr'
          rw [Bool.and_eq_true, isBracketable_iff] at hb
          refine ⟨name.reverse, ?_, hb.1, by simpa using hb.2⟩
          rw [hcs, hr']
          simp
  · intro ⟨name, hcs, haddress, hline⟩
    rw [hcs, bracketedEmail?_append name haddress.not_mem, isBracketable_iff.2 haddress]
    simp [hline]

theorem idNumeral?_eq_none {cs : List Char} (h : cs.all Char.isDigit = false) :
    idNumeral? cs = none := by
  cases cs with
  | nil => rfl
  | cons c cs =>
    by_cases hc : c = '0'
    · simp [idNumeral?, hc]
    · simp [idNumeral?, hc, Text.natural?, h]

theorem idNumeral?_of_mem {cs : List Char} {c : Char} (hc : c ∈ cs) (h : c.isDigit = false) :
    idNumeral? cs = none := by
  apply idNumeral?_eq_none
  rw [List.all_eq_false]
  exact ⟨c, hc, by simp [h]⟩

end Account

theorem Text.trimChars_bracketed (name email : List Char) :
    trimChars (name ++ '<' :: (email ++ ['>'])) =
      name.dropWhile isBlank ++ '<' :: (email ++ ['>']) := by
  have hfront : (name ++ '<' :: (email ++ ['>'])).dropWhile isBlank =
      name.dropWhile isBlank ++ '<' :: (email ++ ['>']) := by
    rw [List.dropWhile_append]
    split
    case isTrue h =>
      rw [List.isEmpty_iff.1 h, List.dropWhile_cons_of_neg (by decide), List.nil_append]
    case isFalse => rfl
  have hback : (name.dropWhile isBlank ++ '<' :: (email ++ ['>'])).reverse =
      '>' :: (email.reverse ++ '<' :: (name.dropWhile isBlank).reverse) := by simp
  unfold trimChars
  rw [hfront, hback, List.dropWhile_cons_of_neg (by decide)]
  simp

namespace Directory

open Account

variable {accounts : List Account} {reference : String}

theorem mem_emailIds {email : String} {id : Int} :
    id ∈ activeIds accounts (fun a ↦ folds (Text.fold email) a.email) ↔
      ∃ a ∈ accounts, a.active = true ∧ Text.fold (a.email.getD "") = Text.fold email ∧
        a.id = id := by
  simp only [mem_activeIds, folds, beq_iff_eq, and_assoc]

theorem resolveTrimmed_of_bracketed {email : List Char}
    (h : bracketedEmail? reference.toList = some email) :
    resolveTrimmed accounts reference =
      .byEmail (activeIds accounts fun a ↦ folds (Text.fold (String.ofList email)) a.email) := by
  obtain ⟨name, hr, -, -⟩ := bracketedEmail?_eq_some_iff.1 h
  have hid : idNumeral? reference.toList = none := idNumeral?_of_mem (c := '<') (by simp [hr]) rfl
  unfold resolveTrimmed
  rw [hid, h]

theorem resolveTrimmed_of_at (h : bracketedEmail? reference.toList = none)
    (hat : '@' ∈ reference.toList) : resolveTrimmed accounts reference =
      .byEmail (activeIds accounts fun a ↦ folds (Text.fold reference) a.email) := by
  unfold resolveTrimmed
  rw [idNumeral?_of_mem hat rfl, h]
  simp [hat]

theorem findAccounts_of_trim {trimmed : String} (h : Text.trim reference = trimmed)
    (hne : trimmed.toList ≠ []) :
    findAccounts accounts reference = (resolveTrimmed accounts trimmed).ids := by
  unfold findAccounts resolve
  rw [h, if_neg]
  simpa using hne

section Address

variable {email : String} (h : IsAddress email.toList)

include h

theorem findAccounts_address : findAccounts accounts email =
    .ok (activeIds accounts fun a ↦ folds (Text.fold email) a.email) := by
  have htrim : Text.trim email = email :=
    Text.trim_of_not_blank fun c hc ↦ (h.plain c hc).2.2
  have hnone : bracketedEmail? email.toList = none := by
    cases he : bracketedEmail? email.toList with
    | none => rfl
    | some e =>
      obtain ⟨name, hsplit, -, -⟩ := bracketedEmail?_eq_some_iff.1 he
      exact absurd (by simp [hsplit]) h.not_mem
  rw [findAccounts_of_trim htrim (List.ne_nil_of_mem h.at_mem), resolveTrimmed_of_at hnone h.at_mem]
  rfl

theorem findAccounts_bracketed (name : String) :
    findAccounts accounts (name ++ "<" ++ email ++ ">") =
      .ok (if '\n' ∈ name.toList.dropWhile Text.isBlank then
        activeIds accounts fun a ↦
          folds (Text.fold (Text.trim (name ++ "<" ++ email ++ ">"))) a.email
      else activeIds accounts fun a ↦ folds (Text.fold email) a.email) := by
  have htrim : (Text.trim (name ++ "<" ++ email ++ ">")).toList =
      name.toList.dropWhile Text.isBlank ++ '<' :: (email.toList ++ ['>']) := by
    rw [Text.trim, String.toList_ofList, ← Text.trimChars_bracketed]
    simp [String.toList_append]
  have hemail := bracketedEmail?_append (name.toList.dropWhile Text.isBlank) h.not_mem
  rw [isBracketable_iff.2 h, ← htrim] at hemail
  rw [findAccounts_of_trim rfl (by simp [htrim])]
  by_cases hline : '\n' ∈ name.toList.dropWhile Text.isBlank
  · rw [if_pos hline]
    have hat : '@' ∈ (Text.trim (name ++ "<" ++ email ++ ">")).toList := by
      simp [htrim, h.at_mem]
    rw [resolveTrimmed_of_at (by simpa [hline] using hemail) hat]
    rfl
  · rw [if_neg hline]
    have hsome : bracketedEmail? (Text.trim (name ++ "<" ++ email ++ ">")).toList =
        some email.toList := by simpa [hline] using hemail
    rw [resolveTrimmed_of_bracketed hsome, String.ofList_toList]
    rfl

end Address

/-- An email finds the active accounts that have it, without regard to case. A name in front and
brackets around it change nothing, unless a line feed stands in the name behind the blanks that it
starts with; then the whole reference is taken for an email. -/
theorem bracketed_email_found (accounts : List Account) (name email : String)
    (h : IsAddress email.toList) :
    (∃ ids, findAccounts accounts email = .ok ids ∧ ∀ id, id ∈ ids ↔ ∃ a ∈ accounts,
      a.active = true ∧ Text.fold (a.email.getD "") = Text.fold email ∧ a.id = id) ∧
    ('\n' ∉ name.toList.dropWhile Text.isBlank →
      findAccounts accounts (name ++ "<" ++ email ++ ">") = findAccounts accounts email) ∧
    ('\n' ∈ name.toList.dropWhile Text.isBlank →
      ∃ ids, findAccounts accounts (name ++ "<" ++ email ++ ">") = .ok ids ∧ ∀ id, id ∈ ids ↔
        ∃ a ∈ accounts, a.active = true ∧ Text.fold (a.email.getD "") =
          Text.fold (Text.trim (name ++ "<" ++ email ++ ">")) ∧ a.id = id) := by
  refine ⟨?_, ?_, ?_⟩
  · exact ⟨_, findAccounts_address h, fun id ↦ mem_emailIds⟩
  · intro hline
    rw [findAccounts_bracketed h, if_neg hline, findAccounts_address h]
  · intro hline
    rw [findAccounts_bracketed h, if_pos hline]
    exact ⟨_, rfl, fun id ↦ mem_emailIds⟩

def annAccounts : List Account :=
  [⟨7, none, some "Ann Lee", some "ann@x", true⟩, ⟨8, none, none, some "ANN@X", false⟩,
    ⟨9, none, none, some "<@y", true⟩]

theorem isAddress_ann : IsAddress "Ann@X".toList := isBracketable_iff.1 (by decide)

/-- A name with brackets and another email in it, on a line of its own. -/
theorem bracketed_email_found_ann :
    IsAddress "Ann@X".toList ∧ '\n' ∉ "\n Bob <@y> 3 ".toList.dropWhile Text.isBlank ∧
      findAccounts annAccounts "\n Bob <@y> 3 <Ann@X>" = .ok [7] := by
  have hline : '\n' ∉ "\n Bob <@y> 3 ".toList.dropWhile Text.isBlank := by decide
  have hfound :=
    (bracketed_email_found annAccounts "\n Bob <@y> 3 " "Ann@X" isAddress_ann).2.1 hline
  refine ⟨isAddress_ann, hline, ?_⟩
  have hemail : findAccounts annAccounts "Ann@X" = .ok [7] := by decide +kernel
  rw [← hemail, ← hfound]
  rfl

/-- A line feed between the words of a name: nobody is found. -/
theorem line_feed_hides_email :
    IsAddress "Ann@X".toList ∧ findAccounts annAccounts "Ann@X" = .ok [7] ∧
      findAccounts annAccounts "Ann\nLee <Ann@X>" = .ok [] :=
  ⟨isAddress_ann, by decide +kernel, by decide +kernel⟩

end Directory

end GroupSearch
