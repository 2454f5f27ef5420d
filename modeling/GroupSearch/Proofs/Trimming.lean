import GroupSearch.Proofs.Suggestion
import Mathlib.Data.List.DropRight
import Mathlib.Data.List.Find

namespace GroupSearch

namespace Text

theorem trimChars_isPrefix_dropWhile (cs : List Char) : trimChars cs <+: cs.dropWhile isBlank := by
  rw [← List.reverse_suffix, trimChars, List.reverse_reverse]
  exact List.dropWhile_suffix isBlank

theorem trimChars_isInfix (cs : List Char) : trimChars cs <:+: cs :=
  (trimChars_isPrefix_dropWhile cs).isInfix.trans (List.dropWhile_suffix isBlank).isInfix

theorem trimChars_trimChars (cs : List Char) : trimChars (trimChars cs) = trimChars cs := by
  have hfront : (trimChars cs).dropWhile isBlank = trimChars cs := by
    obtain ⟨behind, hsplit⟩ := trimChars_isPrefix_dropWhile cs
    cases ht : trimChars cs with
    | nil => rfl
    | cons c t =>
      have hc := List.head?_dropWhile_not isBlank cs
      rw [← hsplit, ht] at hc
      rw [List.dropWhile_cons_of_neg (by simpa using hc)]
  have hback : (trimChars cs).reverse.dropWhile isBlank = (trimChars cs).reverse := by
    rw [trimChars, List.reverse_reverse, List.dropWhile_idempotent]
  rw [trimChars.eq_def (trimChars cs), hfront, hback, List.reverse_reverse]

theorem trim_trim (s : String) : trim (trim s) = trim s := by
  rw [trim, trim, String.toList_ofList, trimChars_trimChars]

theorem fold_trim_eq_iff {s : String} : fold s = fold (trim s) ↔ trim s = s := by
  constructor
  · intro h
    obtain ⟨front, back, hsplit⟩ := trimChars_isInfix s.toList
    have hlength := congrArg (List.length ∘ foldChars) hsplit
    rw [fold_eq_iff, trim, String.toList_ofList] at h
    simp only [Function.comp_apply, foldChars_append, List.length_append, h] at hlength
    have hfront : foldChars front = [] := List.eq_nil_of_length_eq_zero (by omega)
    have hback : foldChars back = [] := List.eq_nil_of_length_eq_zero (by omega)
    rw [foldChars_eq_nil] at hfront hback
    rw [hfront, hback, List.nil_append, List.append_nil] at hsplit
    rw [trim, hsplit, String.ofList_toList]
  · intro h
    rw [h]

end Text

section Choice

variable {rs : List Reference} {w w' : String}

theorem isExact_of_bestSuggestion {t : Reference} (h : bestSuggestion rs w = some t)
    (hlong : 2 ≤ rs.length) : t.isExact w = true := by
  unfold bestSuggestion at h
  split at h
  · simp at hlong
  · simpa using List.find?_some h

theorem not_isExact_of_bestSuggestion {t : Reference} (h : bestSuggestion rs w = none)
    (ht : t ∈ rs) : ¬ t.isExact w = true := by
  unfold bestSuggestion at h
  split at h
  · cases h
  · exact List.find?_eq_none.1 h t ht

theorem bestSuggestion_congr (h : ∀ t ∈ rs, t.isExact w = t.isExact w') :
    bestSuggestion rs w = bestSuggestion rs w' := by
  unfold bestSuggestion
  split
  · rfl
  · exact List.find?_congr h

theorem bestSuggestion_of_length_le_one (h : rs.length ≤ 1) :
    bestSuggestion rs w = bestSuggestion rs w' := by
  cases rs with
  | nil => exact bestSuggestion_congr nofun
  | cons t rs =>
    cases rs with
    | nil => rfl
    | cons u rs => simp at h

/-- Two texts, neither of them a uuid, choose alike exactly if they differ in case only, if there is
nothing to choose from, or if no suggestion has one of them as its name. -/
theorem bestSuggestion_eq_iff (huuid : ∀ t ∈ rs, t.uuid ≠ w ∧ t.uuid ≠ w') :
    bestSuggestion rs w = bestSuggestion rs w' ↔
      Text.fold w = Text.fold w' ∨ rs.length ≤ 1 ∨
        ∀ t ∈ rs, Text.fold t.name ≠ Text.fold w ∧ Text.fold t.name ≠ Text.fold w' := by
  have hexact {t : Reference} (ht : t ∈ rs) := Reference.isExact_iff (huuid t ht).1
  have hexact' {t : Reference} (ht : t ∈ rs) := Reference.isExact_iff (huuid t ht).2
  constructor
  · intro h
    by_cases hlong : rs.length ≤ 1
    · exact .inr (.inl hlong)
    cases hbest : bestSuggestion rs w with
    | none =>
      refine .inr (.inr ?_)
      intro t ht
      constructor
      · intro hname
        exact not_isExact_of_bestSuggestion hbest ht ((hexact ht).2 hname)
      · intro hname
        exact not_isExact_of_bestSuggestion (h ▸ hbest) ht ((hexact' ht).2 hname)
    | some t =>
      left
      have ht := mem_of_bestSuggestion hbest
      have hname := (hexact ht).1 (isExact_of_bestSuggestion hbest (by omega))
      have hname' := (hexact' ht).1 (isExact_of_bestSuggestion (h ▸ hbest) (by omega))
      exact hname.symm.trans hname'
  · intro h
    rcases h with h | h | h
    · apply bestSuggestion_congr
      intro t ht
      rw [Bool.eq_iff_iff, hexact ht, hexact' ht, h]
    · exact bestSuggestion_of_length_le_one h
    · apply bestSuggestion_congr
      intro t ht
      rw [Bool.eq_iff_iff, hexact ht, hexact' ht, iff_false_left (h t ht).1]
      exact (h t ht).2

end Choice

namespace Directory

variable {groups : List Group} {bound : Int} {r : String}

theorem suggest_trim (groups : List Group) (bound : Int) (r : String) :
    suggest groups bound (Text.trim r) = suggest groups bound r := by
  rw [suggest_eq, suggest_eq, Text.trim, String.toList_ofList, Text.trimChars_trimChars]

theorem exists_of_best {t : Reference} (h : best groups bound r = some t) :
    ∃ g ∈ groups, g.reference = t :=
  exists_of_mem_suggest (mem_of_bestSuggestion h)

theorem best_trim_eq_iff (hr : ∀ g ∈ groups, g.uuid ≠ r ∧ g.uuid ≠ Text.trim r) :
    best groups bound r = best groups bound (Text.trim r) ↔
      Text.trim r = r ∨ (suggest groups bound r).length ≤ 1 ∨ ∀ t ∈ suggest groups bound r,
        Text.fold t.name ≠ Text.fold r ∧ Text.fold t.name ≠ Text.fold (Text.trim r) := by
  rw [best, best, suggest_trim, bestSuggestion_eq_iff, Text.fold_trim_eq_iff]
  intro t ht
  obtain ⟨g, hg, rfl⟩ := exists_of_mem_suggest ht
  exact hr g hg

end Directory

namespace Session

open Directory

variable {s : Session} {d : Directory} {x : Value} {r : String}

/-- A reference that is nobody's uuid is resolved to what is chosen from its suggestions. -/
theorem groupUuid_of_not_mem (hs : s.Coherent) (hv : s.view = .ok d) (schema : Schema) (bound : Int)
    (hr : r ∉ d.groups.map Group.uuid) :
    let result := (runFrom s (Compiler.groupUuid ⟨schema, lookups bound⟩ r)).1
    (∀ uuid, result = .ok uuid ↔ ∃ t, best d.groups bound r = some t ∧ t.uuid = uuid) ∧
      (result = .error (.rejected (.groupNotFound r)) ↔ best d.groups bound r = none) := by
  intro result
  have hresult : result = _ := groupUuid_eq hs hv schema bound r
  rw [hresult, found?, if_neg hr]
  cases best d.groups bound r <;> simp

/-- In an accepted directory, blanks around a reference that is nobody's uuid change nothing about
what is suggested for it. They change what is chosen, and so what it is resolved to, exactly if
there are several suggestions, one of which has the reference as its name, be it with or without
them. -/
theorem trimmed_reference_agrees_iff (hs : s.Coherent) (hv : s.view = .ok d)
    (hx : ofValue x = .ok d) (hr : ∀ g ∈ d.groups, g.uuid ≠ r ∧ g.uuid ≠ Text.trim r)
    (schema : Schema) (bound : Int) :
    let offered := Directory.suggest d.groups bound r
    let result (w : String) := (runFrom s (Compiler.groupUuid ⟨schema, lookups bound⟩ w)).1
    Directory.suggest d.groups bound (Text.trim r) = offered ∧
      (best d.groups bound r = best d.groups bound (Text.trim r) ↔
        Text.trim r = r ∨ offered.length ≤ 1 ∨ ∀ t ∈ offered,
          Text.fold t.name ≠ Text.fold r ∧ Text.fold t.name ≠ Text.fold (Text.trim r)) ∧
      (best d.groups bound r = best d.groups bound (Text.trim r) ↔
        (∃ uuid, result r = .ok uuid ∧ result (Text.trim r) = .ok uuid) ∨
          result r = .error (.rejected (.groupNotFound r)) ∧
            result (Text.trim r) = .error (.rejected (.groupNotFound (Text.trim r)))) := by
  intro offered result
  have hplain : r ∉ d.groups.map Group.uuid := by simpa using fun g hg ↦ (hr g hg).1
  have htrimmed : Text.trim r ∉ d.groups.map Group.uuid := by simpa using fun g hg ↦ (hr g hg).2
  obtain ⟨hok, herror⟩ := groupUuid_of_not_mem hs hv schema bound hplain
  obtain ⟨hok', herror'⟩ := groupUuid_of_not_mem hs hv schema bound htrimmed
  refine ⟨suggest_trim d.groups bound r, best_trim_eq_iff hr, ?_, ?_⟩
  · intro h
    cases hb : best d.groups bound r with
    | none => exact .inr ⟨herror.2 hb, herror'.2 (h ▸ hb)⟩
    | some t => exact .inl ⟨t.uuid, (hok _).2 ⟨t, hb, rfl⟩, (hok' _).2 ⟨t, h ▸ hb, rfl⟩⟩
  · intro h
    rcases h with ⟨uuid, h, h'⟩ | ⟨h, h'⟩
    · obtain ⟨t, ht, huuid⟩ := (hok _).1 h
      obtain ⟨u, hu, huuid'⟩ := (hok' _).1 h'
      -- uuids are distinct, so the same uuid is the same suggestion
      obtain ⟨g, hg, rfl⟩ := exists_of_best ht
      obtain ⟨k, hk, rfl⟩ := exists_of_best hu
      have hgk : g = k := List.inj_on_of_nodup_map (distinct_of_ofValue hx).uuids hg hk
        (huuid.trans huuid'.symm)
      rw [ht, hu, hgk]
    · rw [herror.1 h, herror'.1 h']

def devListing : Value :=
  .record [("groups", .list [
    .record [("uuid", .text "u1"), ("name", .text "Developers")],
    .record [("uuid", .text "u2"), ("name", .text "DEVOPS")],
    .record [("uuid", .text "u3"), ("name", .text "Dev")]])]

/-- With nothing to choose from, a reference is resolved with blanks as it is without them. -/
theorem trimmed_reference_agrees_iff_devops :
    let s := ofDirectory devDirectory
    let l := lookups defaultSuggestions
    s.Coherent ∧ s.view = .ok devDirectory ∧ ofValue devListing = .ok devDirectory ∧
      (∀ g ∈ devDirectory.groups, g.uuid ≠ "\tdevo " ∧ g.uuid ≠ Text.trim "\tdevo ") ∧
      (runFrom s (Compiler.groupUuid ⟨.v5, l⟩ "\tdevo ")).1 = .ok "u2" ∧
      (runFrom s (Compiler.groupUuid ⟨.v5, l⟩ (Text.trim "\tdevo "))).1 = .ok "u2" := by
  intro s l
  have hs : s.Coherent := ofDirectory_coherent _
  have hv : s.view = .ok devDirectory := rfl
  have hx : ofValue devListing = .ok devDirectory := by decide +kernel
  have hr : ∀ g ∈ devDirectory.groups, g.uuid ≠ "\tdevo " ∧ g.uuid ≠ Text.trim "\tdevo " := by
    decide +kernel
  have hfound : (runFrom s (Compiler.groupUuid ⟨.v5, l⟩ "\tdevo ")).1 = .ok "u2" := by
    decide +kernel
  obtain ⟨-, hbest, hagree⟩ := trimmed_reference_agrees_iff hs hv hx hr .v5 defaultSuggestions
  have hsingle := hbest.2 (.inr (.inl (by decide +kernel)))
  refine ⟨hs, hv, hx, hr, hfound, ?_⟩
  rcases hagree.1 hsingle with ⟨uuid, hplain, htrimmed⟩ | ⟨hnone, -⟩
  · cases hfound.symm.trans hplain
    exact htrimmed
  · cases hfound.symm.trans hnone

theorem suggest_dev : Directory.suggest devDirectory.groups defaultSuggestions (Text.trim " Dev ") =
    [⟨"u3", "Dev"⟩, ⟨"u1", "Developers"⟩, ⟨"u2", "DEVOPS"⟩] := by
  have hperm : (starting devDirectory.groups (Text.trim " Dev ")).Perm
      [⟨"u3", "Dev"⟩, ⟨"u1", "Developers"⟩, ⟨"u2", "DEVOPS"⟩] := by decide +kernel
  rw [suggest_of_trim (Text.trim_trim _) (by decide +kernel),
    byName_eq_of_perm (starting_names (by decide +kernel)) hperm, byName,
    List.mergeSort_of_pairwise (by decide +kernel)]
  simp [takeBounded, defaultSuggestions]

/-- With blanks around it, the name of a group that others start with is not found. -/
theorem blanks_hide_exact_name :
    let s := ofDirectory devDirectory
    let l := lookups defaultSuggestions
    ofValue devListing = .ok devDirectory ∧
      (∀ g ∈ devDirectory.groups, g.uuid ≠ " Dev " ∧ g.uuid ≠ Text.trim " Dev ") ∧
      best devDirectory.groups defaultSuggestions " Dev " = none ∧
      best devDirectory.groups defaultSuggestions (Text.trim " Dev ") = some ⟨"u3", "Dev"⟩ ∧
      (runFrom s (Compiler.groupUuid ⟨.v5, l⟩ " Dev ")).1 =
        .error (.rejected (.groupNotFound " Dev ")) ∧
      (runFrom s (Compiler.groupUuid ⟨.v5, l⟩ (Text.trim " Dev "))).1 = .ok "u3" := by
  intro s l
  have hs : s.Coherent := ofDirectory_coherent _
  have hplain : best devDirectory.groups defaultSuggestions " Dev " = none := by
    rw [best, ← suggest_trim, suggest_dev]
    decide +kernel
  have htrimmed : best devDirectory.groups defaultSuggestions (Text.trim " Dev ") =
      some ⟨"u3", "Dev"⟩ := by
    rw [best, suggest_dev]
    decide +kernel
  refine ⟨by decide +kernel, by decide +kernel, hplain, htrimmed, ?_, ?_⟩
  · exact (groupUuid_of_not_mem hs rfl .v5 _ (by decide)).2.2 hplain
  · exact ((groupUuid_of_not_mem hs rfl .v5 _ (by decide +kernel)).1 _).2 ⟨_, htrimmed, rfl⟩

end Session

end GroupSearch
