import GroupSearch.Proofs.Agreement
import GroupSearch.Proofs.Folding

namespace GroupSearch

def Group.StartsWith (g : Group) (r : String) : Prop :=
  (Text.fold r).toList <+: (Text.fold g.name).toList

namespace Group.StartsWith

variable {g : Group} {r : String}

theorem le (h : g.StartsWith r) : Text.fold r ≤ Text.fold g.name := List.IsPrefix.le h

theorem of_fold_eq (h : Text.fold g.name = Text.fold r) : g.StartsWith r :=
  ⟨[], by rw [List.append_nil, h]⟩

end Group.StartsWith

namespace Directory

/-- What a reference without blanks around it stands for: the group with that uuid, or else the one
with that name, or else the only one whose name starts with it. -/
inductive Designates (groups : List Group) (r : String) : String → Prop
  | uuid : r ∈ groups.map Group.uuid → Designates groups r r
  | name {g : Group} : r ∉ groups.map Group.uuid → r ≠ "" → g ∈ groups →
      Text.fold g.name = Text.fold r → Designates groups r g.uuid
  | start {g : Group} : r ∉ groups.map Group.uuid → r ≠ "" →
      (∀ h ∈ groups, Text.fold h.name ≠ Text.fold r) → g ∈ groups → g.StartsWith r →
      (∀ h ∈ groups, h.StartsWith r → h = g) → Designates groups r g.uuid

/-- What is chosen for a reference from the suggestions for it. -/
def best (groups : List Group) (bound : Int) (r : String) : Option Reference :=
  bestSuggestion (suggest groups bound r) r

/-- The uuid that a reference is resolved to. -/
def found? (groups : List Group) (bound : Int) (r : String) : Option String :=
  if r ∈ groups.map Group.uuid then some r else (best groups bound r).map Reference.uuid

/-- All groups that may be suggested for a text. -/
def starting (groups : List Group) (r : String) : List Reference :=
  (groups.map Group.reference).filter fun t ↦
    (Text.foldChars r.toList).isPrefixOf (Text.foldChars t.name.toList)

variable {groups : List Group} {r : String}

theorem mem_starting {t : Reference} :
    t ∈ starting groups r ↔ ∃ g ∈ groups, g.StartsWith r ∧ g.reference = t := by
  have hstarts (g : Group) : g.StartsWith r ↔
      (Text.foldChars r.toList).isPrefixOf (Text.foldChars g.name.toList) = true := by
    rw [Group.StartsWith, Text.fold, Text.fold, String.toList_ofList, String.toList_ofList,
      List.isPrefixOf_iff_prefix]
  rw [starting, List.mem_filter, List.mem_map]
  constructor
  · intro h
    obtain ⟨⟨g, hg, rfl⟩, hp⟩ := h
    exact ⟨g, hg, (hstarts g).2 hp, rfl⟩
  · intro h
    obtain ⟨g, hg, hs, rfl⟩ := h
    exact ⟨⟨g, hg, rfl⟩, (hstarts g).1 hs⟩

theorem starting_names (h : (groups.map fun g ↦ Text.fold g.name).Nodup) :
    ((starting groups r).map fun t ↦ Text.fold t.name).Nodup := by
  have hall : ((groups.map Group.reference).map fun t ↦ Text.fold t.name).Nodup := by
    rw [List.map_map]
    exact h
  exact hall.sublist (List.filter_sublist.map _)

theorem suggest_of_trim (hr : Text.trim r = r) (hne : r ≠ "") (bound : Int) :
    suggest groups bound r = takeBounded bound (byName (starting groups r)) := by
  have hchars : Text.trimChars r.toList = r.toList := by
    have := congrArg String.toList hr
    rwa [Text.trim, String.toList_ofList] at this
  have hstart : (Text.foldChars r.toList).isEmpty = false := by
    rw [List.isEmpty_eq_false_iff, Ne, Text.foldChars_eq_nil, String.toList_eq_nil_iff]
    exact hne
  rw [suggest_eq, hchars]
  simp [hstart, starting]

theorem suggest_of_blank (h : Text.trim r = "") (bound : Int) : suggest groups bound r = [] := by
  have hchars : Text.trimChars r.toList = [] := by
    have := congrArg String.toList h
    rwa [Text.trim, String.toList_ofList] at this
  unfold suggest
  rw [hchars]
  rfl

theorem head?_byName {rs : List Reference} {t : Reference}
    (hn : (rs.map fun t ↦ Text.fold t.name).Nodup) (ht : t ∈ rs)
    (hle : ∀ u ∈ rs, Text.fold t.name ≤ Text.fold u.name) : (byName rs).head? = some t := by
  have hmem {u : Reference} : u ∈ byName rs ↔ u ∈ rs := (byName_perm rs).mem_iff
  have hsorted := byName_sorted rs
  cases hb : byName rs with
  | nil =>
    rw [← hmem, hb] at ht
    cases ht
  | cons u us =>
    rw [hb, List.pairwise_cons] at hsorted
    have hu : u ∈ rs := by
      rw [← hmem, hb]
      exact List.mem_cons_self
    rw [← hmem, hb] at ht
    rcases List.mem_cons.1 ht with rfl | htail
    · rfl
    · have heq := String.le_antisymm (of_decide_eq_true (hsorted.1 t htail)) (hle u hu)
      rw [List.inj_on_of_nodup_map hn hu (hmem.1 (hb ▸ ht)) heq]
      rfl

end Directory

theorem Reference.isExact_iff {t : Reference} {wanted : String} (h : t.uuid ≠ wanted) :
    t.isExact wanted = true ↔ Text.fold t.name = Text.fold wanted := by
  rw [isExact, Bool.or_eq_true, beq_iff_eq, beq_iff_eq, or_iff_left h]

theorem bestSuggestion_head {rs : List Reference} {wanted : String} {t : Reference}
    (h : rs.head? = some t) (ht : t.isExact wanted = true) : bestSuggestion rs wanted = some t := by
  cases rs with
  | nil => cases h
  | cons u us =>
    cases h
    cases us with
    | nil => rfl
    | cons v us => simp [bestSuggestion, ht]

theorem bestSuggestion_eq_none {rs : List Reference} {wanted : String} (h : rs.length ≠ 1)
    (hx : ∀ t ∈ rs, t.isExact wanted = false) : bestSuggestion rs wanted = none := by
  unfold bestSuggestion
  split
  · simp at h
  · rw [List.find?_eq_none]
    intro t ht
    simp [hx t ht]

/-- A cut that leaves two suggestions makes no difference if an exact one comes first. -/
theorem bestSuggestion_take {rs : List Reference} {wanted : String} {n : Nat} (hn : 2 ≤ n)
    (h : ∀ t ∈ rs, t.isExact wanted = true → rs.head? = some t) :
    bestSuggestion (rs.take n) wanted = bestSuggestion rs wanted := by
  by_cases hlong : rs.length < 2
  · rw [List.take_of_length_le (by omega)]
  · by_cases hexact : ∃ t ∈ rs, t.isExact wanted = true
    · obtain ⟨t, ht, he⟩ := hexact
      have hhead := h t ht he
      have htake : (rs.take n).head? = some t := by
        rw [List.head?_take, if_neg (by omega), hhead]
      rw [bestSuggestion_head hhead he, bestSuggestion_head htake he]
    · have hnone : ∀ t ∈ rs, t.isExact wanted = false := by
        intro t ht
        cases he : t.isExact wanted with
        | false => rfl
        | true => exact absurd ⟨t, ht, he⟩ hexact
      rw [bestSuggestion_eq_none (by omega) hnone, bestSuggestion_eq_none]
      · rw [List.length_take]
        omega
      · intro t ht
        exact hnone t (List.mem_of_mem_take ht)

namespace Directory

variable {groups : List Group} {r : String} {bound : Int}

theorem isExact_iff (huuid : r ∉ groups.map Group.uuid) {g : Group} (hg : g ∈ groups) :
    g.reference.isExact r = true ↔ Text.fold g.name = Text.fold r := by
  apply Reference.isExact_iff
  intro h
  exact huuid (h ▸ List.mem_map_of_mem hg)

/-- The group whose name is the reference comes first among those whose names start with it. -/
theorem head?_of_exact (hnames : (groups.map fun g ↦ Text.fold g.name).Nodup) {g : Group}
    (hg : g ∈ groups) (h : Text.fold g.name = Text.fold r) :
    (byName (starting groups r)).head? = some g.reference := by
  apply head?_byName (starting_names hnames) (mem_starting.2 ⟨g, hg, .of_fold_eq h, rfl⟩)
  intro t ht
  obtain ⟨k, hk, hs, rfl⟩ := mem_starting.1 ht
  have hle := hs.le
  rwa [← h] at hle

theorem best_eq (hr : Text.trim r = r) (hne : r ≠ "") (hb : 2 ≤ bound)
    (huuid : r ∉ groups.map Group.uuid)
    (hnames : (groups.map fun g ↦ Text.fold g.name).Nodup) :
    best groups bound r = bestSuggestion (byName (starting groups r)) r := by
  rw [best, suggest_of_trim hr hne, takeBounded, if_neg (by omega)]
  apply bestSuggestion_take (by omega)
  intro t ht he
  obtain ⟨g, hg, -, rfl⟩ := mem_starting.1 ((byName_perm _).mem_iff.1 ht)
  exact head?_of_exact hnames hg ((isExact_iff huuid hg).1 he)

theorem Designates.found?_eq {uuid : String} (h : Designates groups r uuid)
    (hr : Text.trim r = r) (hb : 2 ≤ bound)
    (hnames : (groups.map fun g ↦ Text.fold g.name).Nodup) :
    found? groups bound r = some uuid := by
  cases h with
  | uuid huuid => rw [found?, if_pos huuid]
  | @name g huuid hne hg h =>
    have hbest := bestSuggestion_head (head?_of_exact hnames hg h) ((isExact_iff huuid hg).2 h)
    rw [found?, if_neg huuid, best_eq hr hne hb huuid hnames, hbest]
    rfl
  | @start g huuid hne _ hg hs hunique =>
    have hmem : g.reference ∈ starting groups r := mem_starting.2 ⟨g, hg, hs, rfl⟩
    have hall : ∀ t ∈ starting groups r, t = g.reference := by
      intro t ht
      obtain ⟨k, hk, hks, rfl⟩ := mem_starting.1 ht
      rw [hunique k hk hks]
    have hsingle : starting groups r = [g.reference] := by
      have hnodup : (starting groups r).Nodup := .of_map _ (starting_names hnames)
      rw [List.eq_replicate_of_mem hall, List.nodup_replicate] at hnodup
      have hpos := List.length_pos_of_mem hmem
      obtain ⟨t, ht⟩ := List.length_eq_one_iff.1 (by omega : (starting groups r).length = 1)
      rw [ht, List.mem_singleton] at hmem
      rw [ht, hmem]
    rw [found?, if_neg huuid, best_eq hr hne hb huuid hnames, hsingle, byName,
      List.mergeSort_singleton]
    rfl

theorem designates_or_found?_eq_none (hr : Text.trim r = r) (hb : 2 ≤ bound)
    (huuids : (groups.map Group.uuid).Nodup)
    (hnames : (groups.map fun g ↦ Text.fold g.name).Nodup) :
    (∃ uuid, Designates groups r uuid) ∨ found? groups bound r = none := by
  by_cases huuid : r ∈ groups.map Group.uuid
  · exact .inl ⟨r, .uuid huuid⟩
  by_cases hne : r = ""
  · right
    subst hne
    rw [found?, if_neg huuid, best, suggest_of_blank hr]
    rfl
  by_cases hexact : ∃ g ∈ groups, Text.fold g.name = Text.fold r
  · obtain ⟨g, hg, h⟩ := hexact
    exact .inl ⟨g.uuid, .name huuid hne hg h⟩
  have hnone : ∀ g ∈ groups, Text.fold g.name ≠ Text.fold r := by
    intro g hg h
    exact hexact ⟨g, hg, h⟩
  by_cases hone : (starting groups r).length = 1
  · left
    obtain ⟨t, ht⟩ := List.length_eq_one_iff.1 hone
    obtain ⟨g, hg, hs, rfl⟩ := mem_starting.1 (by rw [ht]; exact List.mem_singleton_self t)
    refine ⟨g.uuid, .start huuid hne hnone hg hs ?_⟩
    intro k hk hks
    have hkt : k.reference ∈ starting groups r := mem_starting.2 ⟨k, hk, hks, rfl⟩
    rw [ht, List.mem_singleton] at hkt
    exact List.inj_on_of_nodup_map huuids hk hg (congrArg Reference.uuid hkt)
  · right
    rw [found?, if_neg huuid, best_eq hr hne hb huuid hnames, bestSuggestion_eq_none]
    · rfl
    · rwa [(byName_perm _).length_eq]
    · intro t ht
      obtain ⟨g, hg, -, rfl⟩ := mem_starting.1 ((byName_perm _).mem_iff.1 ht)
      have he := (isExact_iff huuid hg).not.2 (hnone g hg)
      simpa using he

/-- Of two groups whose names start with a reference neither is preferred for that. -/
theorem not_designates_of_ambiguous {g h : Group} (hg : g ∈ groups) (hh : h ∈ groups) (hne : g ≠ h)
    (hgs : g.StartsWith r) (hhs : h.StartsWith r) (huuid : r ∉ groups.map Group.uuid)
    (hname : ∀ k ∈ groups, Text.fold k.name ≠ Text.fold r) (uuid : String) :
    ¬ Designates groups r uuid := by
  intro hd
  cases hd with
  | uuid hmem => exact huuid hmem
  | name _ _ hk hname' => exact hname _ hk hname'
  | start _ _ _ _ _ hunique => exact hne ((hunique g hg hgs).trans (hunique h hh hhs).symm)

end Directory

namespace View

theorem suggestions_of_ok (d : Directory) (bound : Int) (name : String) :
    suggestions (.ok d) bound name = .ok (Directory.suggest d.groups bound name) := by
  unfold suggestions
  split
  case isTrue h => rw [Directory.suggest_of_blank (String.isEmpty_iff.1 h)]
  case isFalse => rfl

theorem groupUuid_eq (d : Directory) (schema : Schema) (bound : Int) (r : String) :
    (runFrom () (Compiler.groupUuid ⟨schema, lookups (.ok d) bound⟩ r)).1 =
      match Directory.found? d.groups bound r with
      | some uuid => .ok uuid
      | none => .error (.rejected (.groupNotFound r)) := by
  have hgroup (s : Unit) :
      runFrom s (Option.map Group.uuid <$> (lookups (.ok d) bound).group r) =
        (.ok (if r ∈ d.groups.map Group.uuid then some r else none), s) := by
    rw [← Directory.get?_uuid]
    rfl
  rw [Compiler.groupUuid_eq, runFrom_bind, Compiler.runFrom_ask, hgroup, Directory.found?,
    Directory.best]
  by_cases huuid : r ∈ d.groups.map Group.uuid
  · rw [if_pos huuid, if_pos huuid]
    rfl
  · rw [if_neg huuid, if_neg huuid]
    dsimp only
    rw [runFrom_bind, Compiler.runFrom_ask, lookups_suggestions, suggestions_of_ok]
    dsimp only
    cases bestSuggestion (Directory.suggest d.groups bound r) r <;> rfl

end View

namespace Session

open Directory

variable {s : Session} {d : Directory}

theorem groupUuid_eq (hs : s.Coherent) (hv : s.view = .ok d) (schema : Schema) (bound : Int)
    (r : String) :
    (runFrom s (Compiler.groupUuid ⟨schema, lookups bound⟩ r)).1 =
      match found? d.groups bound r with
      | some uuid => .ok uuid
      | none => .error (.rejected (.groupNotFound r)) := by
  have htraced : Alike _ (Compiler.groupUuid ⟨schema, (lookups bound).traced⟩ r)
      (Compiler.groupUuid ⟨schema, lookups bound⟩ r) :=
    Compiler.groupUuid_alike (Lookups.traced_simulates (lookups bound)) r
  have hview := (eq_and_follows htraced (Compiler.groupUuid_alike (lookups_track bound s) r) hs).1
  rw [hview, hv, View.groupUuid_eq]

/-- Whatever the bound on suggestions, if it is two at least, a reference is resolved exactly to
what it stands for among all groups, and not found if it stands for none, as the start of several
names does. -/
theorem group_reference_resolves (hs : s.Coherent) (hv : s.view = .ok d)
    (huuids : (d.groups.map Group.uuid).Nodup)
    (hnames : (d.groups.map fun g ↦ Text.fold g.name).Nodup) (schema : Schema) {bound : Int}
    (hb : 2 ≤ bound) {r : String} (hr : Text.trim r = r) :
    let result := (runFrom s (Compiler.groupUuid ⟨schema, lookups bound⟩ r)).1
    (∀ uuid, result = .ok uuid ↔ Designates d.groups r uuid) ∧
      (result = .error (.rejected (.groupNotFound r)) ↔ ¬ ∃ uuid, Designates d.groups r uuid) ∧
      (Cause.groupNotFound r).kind = .notFound ∧
      ∀ g ∈ d.groups, ∀ h ∈ d.groups, g ≠ h → g.StartsWith r → h.StartsWith r →
        r ∉ d.groups.map Group.uuid → (∀ k ∈ d.groups, Text.fold k.name ≠ Text.fold r) →
        result = .error (.rejected (.groupNotFound r)) := by
  intro result
  have hresult : result = _ := groupUuid_eq hs hv schema bound r
  have hfound {uuid : String} (h : Designates d.groups r uuid) : result = .ok uuid := by
    rw [hresult, h.found?_eq hr hb hnames]
  have hmissing (h : ¬ ∃ uuid, Designates d.groups r uuid) :
      result = .error (.rejected (.groupNotFound r)) := by
    rw [hresult, (designates_or_found?_eq_none hr hb huuids hnames).resolve_left h]
  refine ⟨?_, ⟨?_, hmissing⟩, rfl, ?_⟩
  · intro uuid
    refine ⟨?_, hfound⟩
    intro h
    by_cases hd : ∃ uuid, Designates d.groups r uuid
    · obtain ⟨uuid', hd⟩ := hd
      have heq := (hfound hd).symm.trans h
      cases heq
      exact hd
    · rw [hmissing hd] at h
      cases h
  · intro h hd
    obtain ⟨uuid, hd⟩ := hd
    rw [hfound hd] at h
    cases h
  · intro g hg k hk hne hgs hks huuid hname
    apply hmissing
    intro hd
    obtain ⟨uuid, hd⟩ := hd
    exact not_designates_of_ambiguous hg hk hne hgs hks huuid hname uuid hd

def devDirectory : Directory :=
  ⟨[], [⟨"u1", "Developers", none, none, false, [], []⟩,
    ⟨"u2", "DEVOPS", none, none, false, [], []⟩, ⟨"u3", "Dev", none, none, false, [], []⟩]⟩

/-- With all but two suggestions cut, a name is found that others start with, and no group is taken
for the start of three names. -/
theorem group_reference_resolves_dev :
    let s := after .v5 (ofDirectory devDirectory) [.groups]
    s.Coherent ∧ s.view = .ok devDirectory ∧ (devDirectory.groups.map Group.uuid).Nodup ∧
      (devDirectory.groups.map fun g ↦ Text.fold g.name).Nodup ∧
      (runFrom s (Compiler.groupUuid ⟨.v5, lookups 2⟩ "dev")).1 = .ok "u3" ∧
      (runFrom s (Compiler.groupUuid ⟨.v5, lookups 2⟩ "d")).1 =
        .error (.rejected (.groupNotFound "d")) := by
  intro s
  have hs : s.Coherent := after_coherent (ofDirectory_coherent _) _
  have hv : s.view = .ok devDirectory := after_ofDirectory_view _ _ _
  have huuids : (devDirectory.groups.map Group.uuid).Nodup := by decide
  have hnames : (devDirectory.groups.map fun g ↦ Text.fold g.name).Nodup := by decide +kernel
  have hdev := group_reference_resolves hs hv huuids hnames .v5 (Int.le_refl 2)
    (show Text.trim "dev" = "dev" by decide +kernel)
  have hd := group_reference_resolves hs hv huuids hnames .v5 (Int.le_refl 2)
    (show Text.trim "d" = "d" by decide +kernel)
  refine ⟨hs, hv, huuids, hnames, ?_, ?_⟩
  · rw [hdev.1]
    exact .name (g := ⟨"u3", "Dev", none, none, false, [], []⟩) (by decide) (by decide) (by decide)
      (by decide +kernel)
  · apply hd.2.2.2 ⟨"u1", "Developers", none, none, false, [], []⟩ (by decide)
      ⟨"u2", "DEVOPS", none, none, false, [], []⟩ (by decide) (by decide)
    · exact List.isPrefixOf_iff_prefix.1 (by decide +kernel)
    · exact List.isPrefixOf_iff_prefix.1 (by decide +kernel)
    · decide
    · decide +kernel

end Session

end GroupSearch
