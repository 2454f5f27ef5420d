import GroupSearch.Proofs.Acceptance
import GroupSearch.Proofs.Folding
import GroupSearch.Proofs.Resolution
import Mathlib.Data.List.Nodup
import Mathlib.Data.List.Pairwise
import Mathlib.Data.List.Perm.Subperm

namespace GroupSearch

open Value

namespace Account

/-- The account is active and has the name for a username, without regard to case. -/
structure IsCalled (a : Account) (name : String) : Prop where
  active : a.active = true
  username : ∃ u, a.username = some u ∧ Text.fold u = Text.fold name

/-- The two accounts do not have the same username without regard to case. -/
def CalledApart (a b : Account) : Prop :=
  ∀ u w, a.username = some u → b.username = some w → Text.fold u ≠ Text.fold w

instance : Std.Symm CalledApart := ⟨fun _ _ h u w hu hw ↦ (h w u hw hu).symm⟩

def document (a : Account) : Value :=
  record [("id", int a.id), ("username", nullable a.username), ("full_name", nullable a.fullName),
    ("email", nullable a.email), ("active", bool a.active)]

end Account

namespace Directory

def UsernamesDistinct (d : Directory) : Prop := d.accounts.Pairwise Account.CalledApart

def renamed (name : Account → Option String) (d : Directory) : Directory :=
  { d with accounts := d.accounts.map fun a ↦ { a with username := name a } }

variable {v : Value} {d : Directory} {accounts : List Account} {reference : String} {ids : List Int}

theorem inRecord_document {a : Account} (h : 0 < a.id) :
    InRecord DescribesAccount a.document a :=
  ⟨_, rfl, rfl, h, rfl, rfl, rfl, rfl⟩

theorem InList.of_field?_eq {α : Type} {describes : Fields → α → Prop} {fields fields' : Fields}
    {name : String} {as : List α} (h : InList describes fields name as)
    (he : field? fields' name = field? fields name) : InList describes fields' name as := by
  obtain ⟨items, hitems, has⟩ := h
  refine ⟨items, ?_, has⟩
  cases hitems with
  | absent ha => exact .absent (he ▸ ha)
  | items hi => exact .items (he.trans hi)

theorem renamed_accepted (h : ofValue v = .ok d) (name : Account → Option String) :
    ∃ v', ofValue v' = .ok (d.renamed name) := by
  obtain ⟨root, -, hd, hdistinct⟩ := ((ofValue_decides v).ok d).1 h
  let root' : Fields :=
    ("accounts", list ((d.renamed name).accounts.map Account.document)) :: root
  have hpositive : ∀ a ∈ (d.renamed name).accounts, 0 < a.id := by
    intro a ha
    obtain ⟨b, hb, hab⟩ := List.mem_map.1 ha
    subst hab
    exact positive_of_ofValue h b hb
  have haccounts : InList DescribesAccount root' "accounts" (d.renamed name).accounts := by
    refine ⟨_, .items rfl, ?_⟩
    rw [List.forall₂_map_left_iff, List.forall₂_same]
    exact fun a ha ↦ inRecord_document (hpositive a ha)
  have hids : (d.renamed name).accounts.map Account.id = d.accounts.map Account.id := by
    simp [renamed, Function.comp_def]
  refine ⟨record root', ((ofValue_decides _).ok _).2 ⟨root', rfl, ⟨haccounts, ?_⟩, ?_⟩⟩
  · exact hd.groups.of_field?_eq rfl
  · exact ⟨hids ▸ hdistinct.ids, hdistinct.uuids, hdistinct.names⟩

theorem fold_eq_empty {s : String} (h : Text.fold s = Text.fold "") : s = "" := by
  rw [Text.fold_eq_iff] at h
  exact String.toList_eq_nil_iff.1 (Text.foldChars_eq_nil.1 h)

theorem isCalled_iff {a : Account} {name : String} (hne : name ≠ "") :
    a.IsCalled name ↔ a.active = true ∧ Account.folds (Text.fold name) a.username = true := by
  constructor
  · intro h
    obtain ⟨u, hu, hfold⟩ := h.username
    refine ⟨h.active, ?_⟩
    rw [hu, Account.folds, Option.getD_some, hfold, beq_self_eq_true]
  · intro h
    obtain ⟨hactive, hfolds⟩ := h
    refine ⟨hactive, ?_⟩
    rw [Account.folds, beq_iff_eq] at hfolds
    cases hu : a.username with
    | none =>
      rw [hu] at hfolds
      exact (hne (fold_eq_empty hfolds.symm)).elim
    | some u =>
      rw [hu] at hfolds
      exact ⟨u, rfl, hfolds⟩

theorem trim_ne_empty_of_resolve {r : Resolution} (h : resolve accounts reference = r)
    (hr : r ≠ .blank) :
    Text.trim reference ≠ "" ∧ resolveTrimmed accounts (Text.trim reference) = r := by
  unfold resolve at h
  split at h
  · exact (hr h.symm).elim
  · next hne => exact ⟨fun he ↦ hne (by simp [he]), h⟩

theorem ids_of_byUsername (h : resolveTrimmed accounts reference = .byUsername ids) :
    ids ≠ [] ∧
      ids = activeIds accounts fun a ↦ Account.folds (Text.fold reference) a.username := by
  unfold resolveTrimmed at h
  split at h
  · next n _ => 
    rcases byNumber_cases accounts n reference.length with hr | ⟨-, -, hr⟩ <;>
      cases hr.symm.trans h
  split at h
  · cases h
  dsimp only at h
  split at h
  · cases h
  split at h
  · cases h
  · next hne =>
    cases h
    exact ⟨hne, rfl⟩

theorem mem_ids_of_byUsername (h : resolve accounts reference = .byUsername ids) (id : Int) :
    id ∈ ids ↔ ∃ a ∈ accounts, a.IsCalled (Text.trim reference) ∧ a.id = id := by
  obtain ⟨hne, hr⟩ := trim_ne_empty_of_resolve h nofun
  rw [(ids_of_byUsername hr).2, mem_activeIds]
  simp only [isCalled_iff hne]

theorem activeIds_eq_singleton {p : Account → Bool} {id : Int}
    (h : ∀ i, i ∈ activeIds accounts p ↔ i = id) : activeIds accounts p = [id] :=
  idSet_eq_singleton fun i ↦ mem_idSet.symm.trans (h i)

theorem single_iff_of_byUsername (hd : (accounts.map Account.id).Nodup)
    (h : resolve accounts reference = .byUsername ids) :
    (∃ id, ids = [id]) ↔ ∀ a ∈ accounts, ∀ b ∈ accounts,
      a.IsCalled (Text.trim reference) → b.IsCalled (Text.trim reference) → a = b := by
  have hmem := mem_ids_of_byUsername h
  constructor
  · intro hids a ha b hb hac hbc
    obtain ⟨id, hids⟩ := hids
    have haid : a.id ∈ ids := (hmem a.id).2 ⟨a, ha, hac, rfl⟩
    have hbid : b.id ∈ ids := (hmem b.id).2 ⟨b, hb, hbc, rfl⟩
    rw [hids, List.mem_singleton] at haid hbid
    exact List.inj_on_of_nodup_map hd ha hb (haid.trans hbid.symm)
  · intro hsame
    obtain ⟨-, hr⟩ := trim_ne_empty_of_resolve h nofun
    obtain ⟨hne, hids⟩ := ids_of_byUsername hr
    obtain ⟨id, hid⟩ := List.exists_mem_of_ne_nil ids hne
    obtain ⟨a, ha, hac, haid⟩ := (hmem id).1 hid
    refine ⟨id, ?_⟩
    rw [hids] at hmem hid ⊢
    refine activeIds_eq_singleton fun i ↦ ⟨fun hi ↦ ?_, fun hi ↦ hi ▸ hid⟩
    obtain ⟨b, hb, hbc, hbid⟩ := (hmem i).1 hi
    rw [← hbid, ← haid, hsame b hb a ha hbc hac]

theorem eq_of_isCalled (h : d.UsernamesDistinct) {a b : Account} (ha : a ∈ d.accounts)
    (hb : b ∈ d.accounts) {name : String} (hac : a.IsCalled name) (hbc : b.IsCalled name) :
    a = b := by
  obtain ⟨u, hu, hfold⟩ := hac.username
  obtain ⟨w, hw, hfold'⟩ := hbc.username
  by_contra hne
  exact h.forall ha hb hne u w hu hw (hfold.trans hfold'.symm)

/-- An id finds one account at most. -/
theorem length_ids_of_byId (h : resolve accounts reference = .byId ids) : ids.length ≤ 1 := by
  obtain ⟨-, hr⟩ := trim_ne_empty_of_resolve h nofun
  unfold resolveTrimmed at hr
  split at hr
  · next n _ =>
    rcases byNumber_cases accounts n (Text.trim reference).length with hn | ⟨-, -, hn⟩ <;>
      cases hn.symm.trans hr
    have hsub : activeIds accounts (fun a ↦ a.id == (n : Int)) ⊆ [(n : Int)] := by
      intro i hi
      obtain ⟨a, -, ⟨-, hid⟩, ha⟩ := mem_activeIds.1 hi
      rw [← ha, List.mem_singleton]
      exact beq_iff_eq.1 hid
    exact (List.Nodup.subperm (idSet_nodup _) hsub).length_le
  · split at hr
    · cases hr
    · dsimp only at hr
      split at hr
      · cases hr
      · split at hr <;> cases hr

/-- A directory is accepted whatever the usernames are. In one that is accepted, a username finds
one account exactly if no other one that is active has it too, which is so of every username where
no two accounts share one; then only emails and full names find several accounts. -/
theorem username_finds_one_iff (h : ofValue v = .ok d) (reference : String) :
    (∀ name, ∃ v', ofValue v' = .ok (d.renamed name)) ∧
    (∀ ids, resolve d.accounts reference = .byUsername ids →
      ((∃ id, ids = [id]) ↔ ∀ a ∈ d.accounts, ∀ b ∈ d.accounts,
        a.IsCalled (Text.trim reference) → b.IsCalled (Text.trim reference) → a = b)) ∧
    (d.UsernamesDistinct →
      (∀ ids, resolve d.accounts reference = .byUsername ids → ∃ id, ids = [id]) ∧
      (∀ ids, findAccounts d.accounts reference = .ok ids → 2 ≤ ids.length →
        resolve d.accounts reference = .byEmail ids ∨
          resolve d.accounts reference = .byFullName ids)) := by
  have hids : (d.accounts.map Account.id).Nodup := (distinct_of_ofValue h).ids
  refine ⟨renamed_accepted h, fun ids ↦ single_iff_of_byUsername hids, fun hd ↦ ?_⟩
  have hsingle : ∀ ids, resolve d.accounts reference = .byUsername ids → ∃ id, ids = [id] :=
    fun ids hr ↦ (single_iff_of_byUsername hids hr).2 fun a ha b hb ↦ eq_of_isCalled hd ha hb
  refine ⟨hsingle, fun ids hfound hlen ↦ ?_⟩
  rw [findAccounts] at hfound
  cases hr : resolve d.accounts reference with
  | blank =>
    rw [hr] at hfound
    cases hfound
    cases hlen
  | byId ids =>
    have hle := length_ids_of_byId hr
    rw [hr] at hfound
    cases hfound
    omega
  | byUsername ids =>
    obtain ⟨id, hid⟩ := hsingle ids hr
    rw [hr, hid] at hfound
    cases hfound
    cases hlen with
    | step hlen => cases hlen
  | byEmail ids =>
    rw [hr] at hfound
    cases hfound
    exact .inl rfl
  | byFullName ids =>
    rw [hr] at hfound
    cases hfound
    exact .inr rfl
  | overlong fault =>
    rw [hr] at hfound
    cases hfound

def teamListing : Value :=
  .record [("accounts", .list [
    .record [("id", .int 1), ("username", .text "ann")],
    .record [("id", .int 2), ("username", .text "Straße")],
    .record [("id", .int 3), ("username", .text "STRASSE")]])]

def teamDirectory : Directory :=
  ⟨[⟨1, some "ann", none, none, true⟩, ⟨2, some "Straße", none, none, true⟩,
    ⟨3, some "STRASSE", none, none, true⟩], []⟩

/-- One username of a single account, and one of two. -/
theorem username_finds_one_iff_team :
    let called (name : String) : Prop := ∀ a ∈ teamDirectory.accounts,
      ∀ b ∈ teamDirectory.accounts, a.IsCalled name → b.IsCalled name → a = b
    ofValue teamListing = .ok teamDirectory ∧
      resolve teamDirectory.accounts " ANN" = .byUsername [1] ∧ called (Text.trim " ANN") ∧
      resolve teamDirectory.accounts "strasse" = .byUsername [2, 3] ∧
      ¬ called (Text.trim "strasse") := by
  intro called
  have hd : ofValue teamListing = .ok teamDirectory := by decide +kernel
  have hann : resolve teamDirectory.accounts " ANN" = .byUsername [1] := by decide +kernel
  have hstreet : resolve teamDirectory.accounts "strasse" = .byUsername [2, 3] := by
    decide +kernel
  obtain ⟨-, hone, -⟩ := username_finds_one_iff hd " ANN"
  obtain ⟨-, hseveral, -⟩ := username_finds_one_iff hd "strasse"
  refine ⟨hd, hann, (hone _ hann).1 ⟨1, rfl⟩, hstreet, fun h ↦ ?_⟩
  obtain ⟨id, hid⟩ := (hseveral _ hstreet).2 h
  cases hid

def repeatedListing : Value :=
  .record [("accounts", .list [
    .record [("id", .int 1), ("username", .text "alice")],
    .record [("id", .int 2), ("username", .text "Alice")]])]

def repeatedDirectory : Directory :=
  ⟨[⟨1, some "alice", none, none, true⟩, ⟨2, some "Alice", none, none, true⟩], []⟩

/-- Two accounts may share a username, which then finds both of them. -/
theorem repeated_username_accepted :
    ofValue repeatedListing = .ok repeatedDirectory ∧ ¬ repeatedDirectory.UsernamesDistinct ∧
      resolve repeatedDirectory.accounts "alice" = .byUsername [1, 2] ∧
      ¬ ∃ id, findAccounts repeatedDirectory.accounts "alice" = .ok [id] := by
  have hfound : findAccounts repeatedDirectory.accounts "alice" = .ok [1, 2] := by decide +kernel
  have hfold : Text.fold "alice" = Text.fold "Alice" := by decide +kernel
  refine ⟨by decide +kernel, ?_, by decide +kernel, ?_⟩
  · intro h
    have hfirst := List.rel_of_pairwise_cons h List.mem_cons_self
    exact hfirst "alice" "Alice" rfl rfl hfold
  · intro h
    obtain ⟨id, hid⟩ := h
    rw [hfound] at hid
    cases hid

end Directory

end GroupSearch
