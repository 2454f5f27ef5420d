import GroupSearch.Proofs.RoundTrip
import Mathlib.Control.Monad.Basic
import Mathlib.Data.List.Nodup

namespace GroupSearch

namespace Directory

/-- The same active accounts, and the same uuids and names of groups. -/
structure Agrees (d e : Directory) : Prop where
  accounts (id : Int) (username fullName email : Option String) :
    ⟨id, username, fullName, email, true⟩ ∈ d.accounts ↔
      ⟨id, username, fullName, email, true⟩ ∈ e.accounts
  groups (r : Reference) : r ∈ d.groups.map Group.reference ↔ r ∈ e.groups.map Group.reference

variable {d e : Directory}

namespace Agrees

theorem mem_accounts (h : d.Agrees e) {a : Account} (ha : a.active = true) :
    a ∈ d.accounts ↔ a ∈ e.accounts := by
  obtain ⟨id, username, fullName, email, active⟩ := a
  cases ha
  exact h.accounts id username fullName email

theorem activeIds_eq (h : d.Agrees e) : activeIds d.accounts = activeIds e.accounts := by
  funext p
  refine idSet_congr fun id ↦ ?_
  simp only [List.mem_map, List.mem_filter, Bool.and_eq_true]
  constructor
  · rintro ⟨a, ⟨hm, ha, hp⟩, rfl⟩
    exact ⟨a, ⟨(h.mem_accounts ha).1 hm, ha, hp⟩, rfl⟩
  · rintro ⟨a, ⟨hm, ha, hp⟩, rfl⟩
    exact ⟨a, ⟨(h.mem_accounts ha).2 hm, ha, hp⟩, rfl⟩

theorem findAccounts_eq (h : d.Agrees e) (reference : String) :
    findAccounts d.accounts reference = findAccounts e.accounts reference := by
  unfold findAccounts resolve resolveTrimmed byNumber byFullName
  rw [h.activeIds_eq]

theorem get?_eq (h : d.Agrees e) (uuid : String) :
    (GroupIndex.get? ⟨d.groups⟩ uuid).map Group.uuid =
      (GroupIndex.get? ⟨e.groups⟩ uuid).map Group.uuid := by
  have hu (groups : List Group) : groups.map Group.uuid =
      (groups.map Group.reference).map Reference.uuid := by
    rw [List.map_map]
    rfl
  have hm : uuid ∈ d.groups.map Group.uuid ↔ uuid ∈ e.groups.map Group.uuid := by
    rw [hu, hu, List.mem_map, List.mem_map]
    simp only [h.groups]
  rw [get?_uuid, get?_uuid]
  simp only [hm]

end Agrees

def byName (rs : List Reference) : List Reference :=
  rs.mergeSort fun r t ↦ Text.fold r.name ≤ Text.fold t.name

theorem byName_perm (rs : List Reference) : (byName rs).Perm rs := List.mergeSort_perm rs _

theorem byName_sorted (rs : List Reference) :
    (byName rs).Pairwise fun r t ↦ decide (Text.fold r.name ≤ Text.fold t.name) = true := by
  refine List.pairwise_mergeSort (fun a b c ↦ ?_) (fun a b ↦ ?_) rs
  · simp only [decide_eq_true_eq]
    exact String.le_trans
  · simp only [Bool.or_eq_true, decide_eq_true_eq]
    exact String.le_total _ _

theorem byName_eq_of_perm {rs ts : List Reference}
    (hn : (rs.map fun r ↦ Text.fold r.name).Nodup) (h : rs.Perm ts) : byName rs = byName ts := by
  have hp : (byName rs).Perm (byName ts) := (byName_perm rs).trans (h.trans (byName_perm ts).symm)
  refine hp.eq_of_pairwise (fun a b ha hb hab hba ↦ ?_) (byName_sorted rs) (byName_sorted ts)
  -- The order is one of names only; that no two names fold alike makes it one of references.
  have ha' : a ∈ rs := (byName_perm rs).mem_iff.1 ha
  have hb' : b ∈ rs := h.mem_iff.2 ((byName_perm ts).mem_iff.1 hb)
  have heq := String.le_antisymm (of_decide_eq_true hab) (of_decide_eq_true hba)
  exact List.inj_on_of_nodup_map hn ha' hb' heq

theorem map_takeBounded {α β : Type} (f : α → β) (bound : Int) (items : List α) :
    (takeBounded bound items).map f = takeBounded bound (items.map f) := by
  unfold takeBounded
  rw [List.map_take, List.length_map]

theorem suggest_eq (groups : List Group) (bound : Int) (name : String) :
    suggest groups bound name =
      let start := Text.foldChars (Text.trimChars name.toList)
      if start.isEmpty then []
      else takeBounded bound (byName ((groups.map Group.reference).filter fun r ↦
        start.isPrefixOf (Text.foldChars r.name.toList))) := by
  unfold suggest byName
  dsimp only
  split
  · rfl
  · rw [map_takeBounded, List.filter_map]
    exact congrArg (takeBounded bound) (List.map_mergeSort fun _ _ _ _ ↦ rfl)

theorem Distinct.reference_names (h : d.Distinct) :
    ((d.groups.map Group.reference).map fun r ↦ Text.fold r.name).Nodup := by
  rw [List.map_map]
  exact h.names

theorem Agrees.suggest_eq (h : d.Agrees e) (hd : d.Distinct) (he : e.Distinct) (bound : Int)
    (name : String) : suggest d.groups bound name = suggest e.groups bound name := by
  have hp : (d.groups.map Group.reference).Perm (e.groups.map Group.reference) :=
    (List.perm_ext_iff_of_nodup (.of_map _ hd.reference_names) (.of_map _ he.reference_names)).2
      h.groups
  rw [Directory.suggest_eq, Directory.suggest_eq]
  dsimp only
  split
  · rfl
  · refine congrArg (takeBounded bound) (byName_eq_of_perm ?_ (hp.filter _))
    exact hd.reference_names.sublist (List.filter_sublist.map _)

end Directory

namespace View

variable {d e : Directory}

theorem lookups_simulate (h : d.Agrees e) (hd : d.Distinct) (he : e.Distinct) (bound : Int) :
    (lookups (.ok d) bound).Simulates (fun _ _ ↦ True) (lookups (.ok e) bound) where
  accounts reference s t _ := by
    rw [lookups_accounts, lookups_accounts, accounts_of_ok, accounts_of_ok, h.findAccounts_eq]
    exact ⟨rfl, trivial⟩
  group uuid s t _ := by
    have hg (d : Directory) (u : Unit) :
        runFrom u (Option.map Group.uuid <$> (lookups (.ok d) bound).group uuid) =
          (.ok ((GroupIndex.get? ⟨d.groups⟩ uuid).map Group.uuid), u) := rfl
    rw [hg, hg, h.get?_eq]
    exact ⟨rfl, trivial⟩
  suggestions name s t _ := by
    rw [lookups_suggestions, lookups_suggestions, suggestions, suggestions, Except.map, Except.map,
      h.suggest_eq hd he]
    exact ⟨rfl, trivial⟩
  note _ _ _ _ := trivial

end View

namespace Session

open Directory

/-- Sessions that go by accepted directories, in memory or from a file, compile every query to the
same outcome if the directories agree. -/
theorem compile_eq_of_agrees {schema : Schema} {s t : Session} {x y : Value} {d e : Directory}
    (hs : Starts schema s) (ht : Starts schema t) (before before' : List Request)
    (hd : (after schema s before).view = .ok d) (he : (after schema t before').view = .ok e)
    (hx : ofValue x = .ok d) (hy : ofValue y = .ok e) (h : d.Agrees e) (text : Option String) :
    (runFrom (after schema s before) ((compiler schema).compile text)).1 =
      (runFrom (after schema t before') ((compiler schema).compile text)).1 := by
  have hcs : (after schema s before).Coherent := after_coherent hs.coherent before
  have hct : (after schema t before').Coherent := after_coherent ht.coherent before'
  have hl := View.lookups_simulate h (distinct_of_ofValue hx) (distinct_of_ofValue hy)
    defaultSuggestions
  rw [(compile_eq hcs text).1, (compile_eq hct text).1, hd, he]
  exact (Compiler.compile_alike hl text () () trivial).1

def longListing : Value :=
  .record [
    ("accounts", .list [
      .record [("id", .int 9), ("full_name", .text "Ann Lee")],
      .record [("id", .int 3), ("username", .text "ann lee"), ("active", .bool false)],
      .record [("id", .int 7), ("full_name", .text "Ann Lee"), ("email", .text "ann@x")]]),
    ("groups", .list [
      .record [("uuid", .text "u1"), ("name", .text "Staff"), ("members", .list [.int 3])],
      .record [("uuid", .text "u2"), ("name", .text "Star"), ("description", .text "All")]])]

def shortListing : Value :=
  .record [
    ("groups", .list [
      .record [("uuid", .text "u2"), ("name", .text "Star")],
      .record [("uuid", .text "u1"), ("name", .text "Staff")]]),
    ("accounts", .list [
      .record [("id", .int 7), ("full_name", .text "Ann Lee"), ("email", .text "ann@x")],
      .record [("id", .int 9), ("full_name", .text "Ann Lee")]])]

def longDirectory : Directory :=
  ⟨[⟨9, none, some "Ann Lee", none, true⟩, ⟨3, some "ann lee", none, none, false⟩,
      ⟨7, none, some "Ann Lee", some "ann@x", true⟩],
    [⟨"u1", "Staff", none, none, false, [3], []⟩, ⟨"u2", "Star", some "All", none, false, [], []⟩]⟩

def shortDirectory : Directory :=
  ⟨[⟨7, none, some "Ann Lee", some "ann@x", true⟩, ⟨9, none, some "Ann Lee", none, true⟩],
    [⟨"u2", "Star", none, none, false, [], []⟩, ⟨"u1", "Staff", none, none, false, [], []⟩]⟩

/-- Users of one full name, in a disjunction without the one who has left. -/
theorem compile_eq_of_agrees_listings :
    let p : Predicate :=
      .all (.any (.leaf (.member 7)) [.leaf (.member 9)]) [.leaf (.subgroup "u2")]
    let text := some "member:\"ann lee\" subgroup:star"
    longDirectory.Agrees shortDirectory ∧
      (runFrom (after .v5 (ofDirectory longDirectory) [.groups])
        ((compiler .v5).compile text)).1 = .ok (.ok p) ∧
      (runFrom (ofDirectory shortDirectory) ((compiler .v5).compile text)).1 = .ok (.ok p) := by
  intro p text
  have hx : ofValue longListing = .ok longDirectory := by decide +kernel
  have hy : ofValue shortListing = .ok shortDirectory := by decide +kernel
  have hs : Starts .v5 (ofDirectory longDirectory) := .memory (activeIdsPositive_of_ofValue hx)
  have ht : Starts .v5 (ofDirectory shortDirectory) := .memory (activeIdsPositive_of_ofValue hy)
  have h : longDirectory.Agrees shortDirectory := by
    constructor
    · intro id username fullName email
      simp [longDirectory, shortDirectory, or_comm]
    · exact fun r ↦ List.Perm.mem_iff (by decide)
  have hp : (runFrom (after .v5 (ofDirectory longDirectory) [.groups])
      ((compiler .v5).compile text)).1 = .ok (.ok p) := by decide +kernel
  refine ⟨h, hp, ?_⟩
  rw [← hp]
  exact (compile_eq_of_agrees hs ht [.groups] [] (after_ofDirectory_view _ _ _)
    (after_ofDirectory_view _ _ _) hx hy h text).symm

end Session

end GroupSearch
