import GroupSearch.Directory.Validation
import GroupSearch.Proofs.Fields
import Mathlib.Data.List.Forall2

namespace GroupSearch

open Value

namespace Directory

inductive Lists (fields : Fields) (name : String) : List Value → Prop
  | absent : field? fields name = none ∨ field? fields name = some null → Lists fields name []
  | items {items : List Value} : field? fields name = some (list items) → Lists fields name items

structure DescribesAccount (fields : Fields) (a : Account) : Prop where
  id : field? fields "id" = some (int a.id)
  positive : 0 < a.id
  username : optional fields "username" null = nullable a.username
  fullName : optional fields "full_name" null = nullable a.fullName
  email : optional fields "email" null = nullable a.email
  active : optional fields "active" (bool true) = bool a.active

structure DescribesGroup (fields : Fields) (g : Group) : Prop where
  uuid : field? fields "uuid" = some (text g.uuid)
  name : field? fields "name" = some (text g.name)
  description : optional fields "description" null = nullable g.description
  ownerUuid : optional fields "owner_uuid" null = nullable g.ownerUuid
  visibleToAll : optional fields "visible_to_all" (bool false) = bool g.visibleToAll
  members : optional fields "members" (list []) = list (g.members.map int)
  subgroups : optional fields "subgroups" (list []) = list (g.subgroups.map text)

def InRecord {α : Type} (describes : Fields → α → Prop) (v : Value) (a : α) : Prop :=
  ∃ fields, v = record fields ∧ describes fields a

def InList {α : Type} (describes : Fields → α → Prop) (fields : Fields) (name : String)
    (as : List α) : Prop :=
  ∃ items, Lists fields name items ∧ List.Forall₂ (InRecord describes) items as

structure DescribesDirectory (fields : Fields) (d : Directory) : Prop where
  accounts : InList DescribesAccount fields "accounts" d.accounts
  groups : InList DescribesGroup fields "groups" d.groups

/-- Ids, uuids and names stand for one account or group each, names even without regard to case. -/
structure Distinct (d : Directory) : Prop where
  ids : (d.accounts.map Account.id).Nodup
  uuids : (d.groups.map Group.uuid).Nodup
  names : (d.groups.map fun g ↦ Text.fold g.name).Nodup

end Directory

open Directory

/-- Two values of a field that are not told apart, and how an error shows them. -/
inductive Collide : String → Value → Value → String → Prop
  | id {m n : Int} : m = n → Collide "id" (int m) (int n) (toString m)
  | uuid {s t : String} : s = t → Collide "uuid" (text s) (text t) s
  | name {s t : String} : Text.fold s = Text.fold t → Collide "name" (text s) (text t) (Text.fold s)

/-- An error is true of a document: the place that it names has no value, a value of another shape
or an id that is not positive, or a field of two items of a list has values that are not told
apart. -/
inductive DirectoryError.At (v : Value) : ErrorClass → DirectoryError → Prop
  | root : v.shape? ≠ some .object → At v .type (.field (.mismatch "directory root" .object))
  | field {root : Fields} {cls : ErrorClass} {e : FieldError} : v = record root → e.At root cls →
      At v cls (.field e)
  | notPositive {root : Fields} {key : String} {n : Int} : v = record root →
      Place root key (some (int n)) → n ≤ 0 → At v .value (.notPositive key)
  | duplicate {root : Fields} {list name : String} {i j : Nat} {w w' : Value} {shown : String} :
      v = record root → i < j → Place root s!"{list}[{i}].{name}" (some w) →
      Place root s!"{list}[{j}].{name}" (some w') → Collide name w w' shown →
      At v .value (.duplicate s!"{list}.{name}" shown)

def DirectoryError.Fits (v : Value) (e : DirectoryError) : Prop := ∃ cls, e.At v cls

theorem DirectoryError.fits_field {v : Value} {root : Fields} (hv : v = record root)
    (e : FieldError) (he : e.Fits root) : (field e).Fits v :=
  he.imp fun _ ↦ .field hv

namespace Directory

section Items

variable {ε α : Type} {read : String → Value → Except ε α} {wanted : Value → α → Prop}
  {expected : ε → Prop} {root fields : Fields} {key name : String}

theorem readItems_decides {i : Nat} {items : List Value}
    (h : ∀ (j : Nat) (v : Value), items[j]? = some v →
      Decides (wanted v) expected (read s!"{key}[{i + j}]" v)) :
    Decides (List.Forall₂ wanted items) expected (readItems read key i items) := by
  induction items generalizing i with
  | nil => exact (Decides.pure []).congr fun as ↦ by simp
  | cons v vs ih =>
    have hrest : Decides (List.Forall₂ wanted vs) expected (readItems read key (i + 1) vs) := by
      refine ih fun j w hw ↦ ?_
      rw [Nat.add_right_comm]
      exact h (j + 1) w hw
    refine ((h 0 v rfl).bind fun a _ ↦ hrest.bind fun as _ ↦ .pure (a :: as)).congr fun bs ↦ ?_
    rw [List.forall₂_cons_left_iff]
    constructor
    · rintro ⟨a, ha, as, has, rfl⟩
      exact ⟨a, as, ha, has, rfl⟩
    · rintro ⟨a, as, ha, has, rfl⟩
      exact ⟨a, ha, as, has, rfl⟩

theorem readItems_undoes {read : String → Value → Except FieldError α} {write : α → Value}
    {shape : Shape} {items : List Value} (hread : ∀ key, Undoes write key shape (read key))
    (hp : ∀ (i : Nat) (v : Value), items[i]? = some v → Place root s!"{key}[{i}]" (some v)) :
    Decides (fun as ↦ list items = list (as.map write)) (FieldError.Fits root)
      (readItems read key 0 items) := by
  have hitems : Decides (List.Forall₂ (fun v a ↦ v = write a) items) (FieldError.Fits root)
      (readItems read key 0 items) := by
    refine readItems_decides fun i v hv ↦ ?_
    rw [Nat.zero_add]
    exact (hread _).decides (hp i v hv)
  refine hitems.congr fun as ↦ ?_
  rw [list.injEq, ← List.forall₂_eq_eq_eq, List.forall₂_map_right_iff]

theorem Lists.place {items : List Value} (h : Lists root name items) {i : Nat} {v : Value}
    (hv : items[i]? = some v) : Place root s!"{name}[{i}]" (some v) := by
  cases h with
  | absent => cases hv
  | items h =>
    rw [← hv]
    exact .item i (h ▸ .top name)

theorem place_of_optional {items : List Value} (hp : Place root key (field? fields name))
    (h : optional fields name (list []) = list items) {i : Nat} {v : Value}
    (hv : items[i]? = some v) : Place root s!"{key}[{i}]" (some v) := by
  unfold Value.optional at h
  cases hf : field? fields name with
  | none =>
    rw [hf] at h
    cases h
    cases hv
  | some w =>
    rw [hf] at h hp
    obtain rfl : w = list items := h
    rw [← hv]
    exact .item i hp

theorem listField_decides (root : Fields) (name : String) :
    Decides (Lists root name) (FieldError.Fits root) (listField root name) := by
  have habsent (hf : field? root name = none ∨ field? root name = some null) :
      Decides (Lists root name) (FieldError.Fits root) (.ok []) := by
    refine (Decides.pure []).congr fun items ↦ ⟨?_, fun h ↦ ?_⟩
    · rintro rfl
      exact .absent hf
    · cases h with
      | absent => rfl
      | items h => rcases hf with hf | hf <;> cases hf.symm.trans h
  unfold listField
  split
  case h_1 hf => exact habsent (.inl hf)
  case h_2 hf => exact habsent (.inr hf)
  case h_3 v hn hf =>
    have hp : Place root name (field? root name) := .top name
    rw [hf] at hp
    refine ((undoes_asList name).decides hp).congr fun items ↦ ⟨?_, fun h ↦ ?_⟩
    · rintro rfl
      exact .items hf
    · cases h with
      | absent h =>
        rcases h with h | h
        · cases hf.symm.trans h
        · exact (hn (Option.some.inj (hf.symm.trans h))).elim
      | items h => exact Option.some.inj (hf.symm.trans h)

end Items

section Records

variable {root : Fields} {key : String} {v w : Value}

theorem DescribesAccount.unique {fields : Fields} {a b : Account} (ha : DescribesAccount fields a)
    (hb : DescribesAccount fields b) : a = b := by
  cases a
  cases b
  rw [Account.mk.injEq]
  refine ⟨?_, ?_, ?_, ?_, ?_⟩
  · exact int.inj (Option.some.inj (ha.id.symm.trans hb.id))
  · exact nullable_injective (ha.username.symm.trans hb.username)
  · exact nullable_injective (ha.fullName.symm.trans hb.fullName)
  · exact nullable_injective (ha.email.symm.trans hb.email)
  · exact bool.inj (ha.active.symm.trans hb.active)

theorem DescribesGroup.unique {fields : Fields} {g h : Group} (hg : DescribesGroup fields g)
    (hh : DescribesGroup fields h) : g = h := by
  have hint : Function.Injective (List.map int) := List.map_injective_iff.2 fun _ _ ↦ int.inj
  have htext : Function.Injective (List.map text) := List.map_injective_iff.2 fun _ _ ↦ text.inj
  cases g
  cases h
  rw [Group.mk.injEq]
  refine ⟨?_, ?_, ?_, ?_, ?_, ?_, ?_⟩
  · exact text.inj (Option.some.inj (hg.uuid.symm.trans hh.uuid))
  · exact text.inj (Option.some.inj (hg.name.symm.trans hh.name))
  · exact nullable_injective (hg.description.symm.trans hh.description)
  · exact nullable_injective (hg.ownerUuid.symm.trans hh.ownerUuid)
  · exact bool.inj (hg.visibleToAll.symm.trans hh.visibleToAll)
  · exact hint (list.inj (hg.members.symm.trans hh.members))
  · exact htext (list.inj (hg.subgroups.symm.trans hh.subgroups))

theorem readAccount_decides (hv : w = record root) (hp : Place root key (some v)) :
    Decides (InRecord DescribesAccount v) (DirectoryError.Fits w) (readAccount key v) := by
  have hfits := DirectoryError.fits_field hv
  refine (((undoes_asRecord key).decides hp).mapError hfits).bind fun fields h ↦ ?_
  subst h
  refine (((undoes_asInt _).required (hp.behind rfl)).mapError hfits).bindTo
    (fun a h ↦ ⟨_, h.id⟩) fun id hid ↦ ?_
  split
  case isTrue hn =>
    refine .fail (fun a h ↦ ?_) ⟨_, .notPositive hv (hid ▸ hp.behind rfl) hn⟩
    obtain rfl := int.inj (Option.some.inj (hid.symm.trans h.id))
    exact Int.not_le.2 h.positive hn
  case isFalse hn =>
    refine (((undoes_asOptionalText _).optional rfl (hp.behind rfl)).mapError hfits).bindTo
      (fun a h ↦ ⟨_, h.username⟩) fun username husername ↦ ?_
    refine (((undoes_asOptionalText _).optional rfl (hp.behind rfl)).mapError hfits).bindTo
      (fun a h ↦ ⟨_, h.fullName⟩) fun fullName hfullName ↦ ?_
    refine (((undoes_asOptionalText _).optional rfl (hp.behind rfl)).mapError hfits).bindTo
      (fun a h ↦ ⟨_, h.email⟩) fun email hemail ↦ ?_
    refine (((undoes_asBool _).optional rfl (hp.behind rfl)).mapError hfits).bindTo
      (fun a h ↦ ⟨_, h.active⟩) fun active hactive ↦ ?_
    have ha : DescribesAccount fields ⟨id, username, fullName, email, active⟩ :=
      ⟨hid, Int.not_le.1 hn, husername, hfullName, hemail, hactive⟩
    exact .pureTo ha fun b h ↦ h.unique ha

theorem readGroup_decides (hp : Place root key (some v)) :
    Decides (InRecord DescribesGroup v) (FieldError.Fits root) (readGroup key v) := by
  refine ((undoes_asRecord key).decides hp).bind fun fields hv ↦ ?_
  subst hv
  refine ((undoes_asList _).optional rfl (hp.behind rfl)).bindTo (fun g h ↦ ⟨_, h.members⟩)
    fun members hm ↦ ?_
  refine ((undoes_asList _).optional rfl (hp.behind rfl)).bindTo (fun g h ↦ ⟨_, h.subgroups⟩)
    fun subgroups hs ↦ ?_
  refine ((undoes_asText _).required (hp.behind rfl)).bindTo (fun g h ↦ ⟨_, h.uuid⟩)
    fun uuid huuid ↦ ?_
  refine ((undoes_asText _).required (hp.behind rfl)).bindTo (fun g h ↦ ⟨_, h.name⟩)
    fun name hname ↦ ?_
  refine ((undoes_asOptionalText _).optional rfl (hp.behind rfl)).bindTo
    (fun g h ↦ ⟨_, h.description⟩) fun description hdescription ↦ ?_
  refine ((undoes_asOptionalText _).optional rfl (hp.behind rfl)).bindTo
    (fun g h ↦ ⟨_, h.ownerUuid⟩) fun ownerUuid howner ↦ ?_
  refine ((undoes_asBool _).optional rfl (hp.behind rfl)).bindTo
    (fun g h ↦ ⟨_, h.visibleToAll⟩) fun visibleToAll hvisible ↦ ?_
  refine (readItems_undoes undoes_asInt fun i w hw ↦
    place_of_optional (hp.behind rfl) hm hw).bindTo (fun g h ↦ ⟨_, hm.symm.trans h.members⟩)
    fun ids hids ↦ ?_
  refine (readItems_undoes undoes_asText fun i w hw ↦
    place_of_optional (hp.behind rfl) hs hw).bindTo (fun g h ↦ ⟨_, hs.symm.trans h.subgroups⟩)
    fun uuids huuids ↦ ?_
  have hg : DescribesGroup fields
      ⟨uuid, name, description, ownerUuid, visibleToAll, ids, uuids⟩ :=
    ⟨huuid, hname, hdescription, howner, hvisible, hm.trans hids, hs.trans huuids⟩
  exact .pureTo hg fun g h ↦ h.unique hg

end Records

theorem mem_or_exists_of_repeated? {α : Type} [DecidableEq α] {values seen : List α} {a : α}
    (h : repeated? seen values = some a) :
    ∃ j : Nat, values[j]? = some a ∧ (a ∈ seen ∨ ∃ i : Nat, i < j ∧ values[i]? = some a) := by
  induction values generalizing seen with
  | nil => cases h
  | cons b bs ih =>
    unfold repeated? at h
    split at h
    case isTrue hb =>
      cases h
      exact ⟨0, rfl, .inl hb⟩
    case isFalse =>
      obtain ⟨j, hj, hseen | ⟨i, hi, hai⟩⟩ := ih h
      · rcases List.mem_cons.1 hseen with rfl | hseen
        · exact ⟨j + 1, hj, .inr ⟨0, Nat.succ_pos j, rfl⟩⟩
        · exact ⟨j + 1, hj, .inl hseen⟩
      · exact ⟨j + 1, hj, .inr ⟨i + 1, Nat.succ_lt_succ hi, hai⟩⟩

theorem exists_of_repeated? {α : Type} [DecidableEq α] {values : List α} {a : α}
    (h : repeated? [] values = some a) :
    ∃ i j : Nat, i < j ∧ values[i]? = some a ∧ values[j]? = some a := by
  obtain ⟨j, hj, hseen | ⟨i, hi, hai⟩⟩ := mem_or_exists_of_repeated? h
  · cases hseen
  · exact ⟨i, j, hi, hai, hj⟩

theorem InList.place {α : Type} {describes : Fields → α → Prop} {root : Fields} {list : String}
    {as : List α} (h : InList describes root list as) {i : Nat} {a : α} (ha : as[i]? = some a) :
    ∃ fields, describes fields a ∧
      ∀ name, Place root s!"{list}[{i}].{name}" (field? fields name) := by
  obtain ⟨items, hitems, hdescribes⟩ := h
  have hlength := hdescribes.length_eq
  obtain ⟨hi, rfl⟩ := List.getElem?_eq_some_iff.1 ha
  obtain ⟨fields, hv, hd⟩ := hdescribes.get (hlength ▸ hi) hi
  have hp : Place root s!"{list}[{i}]" (some (record fields)) :=
    hv ▸ hitems.place (List.getElem?_eq_getElem (hlength ▸ hi))
  refine ⟨fields, hd, fun name ↦ ?_⟩
  have hkey : list ++ "[" ++ toString i ++ "]" ++ "." ++ name =
      list ++ "[" ++ toString i ++ "]." ++ name := congrArg (· ++ name) String.append_assoc
  exact hkey ▸ Place.field name hp

section Document

variable {v : Value} {root : Fields} (hv : v = record root)

include hv

theorem checkDistinct_decides {α β : Type} [DecidableEq β] [ToString β]
    {describes : Fields → α → Prop} {list name : String} {as : List α} {part : α → β}
    {write : α → Value} (h : InList describes root list as)
    (hwrite : ∀ fields a, describes fields a → field? fields name = some (write a))
    (hcollide : ∀ a b, part a = part b → Collide name (write a) (write b) (toString (part a))) :
    Decides (fun _ ↦ (as.map part).Nodup) (DirectoryError.Fits v)
      (checkDistinct s!"{list}.{name}" (as.map part)) := by
  unfold checkDistinct
  split
  case h_1 hr => exact .pureTo (repeated?_eq_none.1 hr).1 fun _ _ ↦ rfl
  case h_2 p hr =>
    obtain ⟨i, j, hij, hi, hj⟩ := exists_of_repeated? hr
    rw [List.getElem?_map, Option.map_eq_some_iff] at hi hj
    obtain ⟨a, ha, rfl⟩ := hi
    obtain ⟨b, hb, hab⟩ := hj
    obtain ⟨fields, hd, hp⟩ := h.place ha
    obtain ⟨fields', hd', hp'⟩ := h.place hb
    refine .fail (fun _ hn ↦ ?_) ⟨_, .duplicate hv hij ?_ ?_ (hcollide a b hab.symm)⟩
    · have hnone := (@repeated?_eq_none β _ [] _).2 ⟨hn, fun _ _ ↦ List.not_mem_nil⟩
      cases hnone.symm.trans hr
    · exact hwrite fields a hd ▸ hp name
    · exact hwrite fields' b hd' ▸ hp' name

theorem accounts_decides : Decides (InList DescribesAccount root "accounts")
    (DirectoryError.Fits v)
    (reading (listField root "accounts") >>= readItems readAccount "accounts" 0) := by
  have hlist := (listField_decides root "accounts").mapError (DirectoryError.fits_field hv)
  refine hlist.bind fun items hitems ↦ readItems_decides fun i w hw ↦ ?_
  rw [Nat.zero_add]
  exact readAccount_decides hv (hitems.place hw)

theorem groups_decides : Decides (InList DescribesGroup root "groups") (DirectoryError.Fits v)
    (reading (listField root "groups" >>= readItems readGroup "groups" 0)) := by
  refine Decides.mapError ?_ (DirectoryError.fits_field hv)
  refine (listField_decides root "groups").bind fun items hitems ↦ ?_
  refine readItems_decides fun i w hw ↦ ?_
  rw [Nat.zero_add]
  exact readGroup_decides (hitems.place hw)

end Document

theorem ofValue_decides (v : Value) :
    Decides (InRecord (fun fields d ↦ DescribesDirectory fields d ∧ d.Distinct) v)
      (DirectoryError.Fits v) (ofValue v) := by
  have hroot : Decides (fun fields ↦ v = record fields) (DirectoryError.Fits v)
      (reading (v.asRecord "directory root")) :=
    (undoes_asRecord _ v).mapError fun e he ↦ by
      obtain ⟨rfl, hs⟩ := he
      exact ⟨_, .root hs⟩
  refine hroot.bind fun root hv ↦ ?_
  -- The list of accounts is looked up and then read; together they are one part of the directory.
  rw [← bind_assoc]
  refine (accounts_decides hv).bindTo (fun d h ↦ ⟨_, h.1.accounts⟩) fun accounts has ↦ ?_
  refine (groups_decides hv).bindTo (fun d h ↦ ⟨_, h.1.groups⟩) fun groups hgs ↦ ?_
  have hunique (d : Directory) (h : DescribesDirectory root d) : d = ⟨accounts, groups⟩ := by
    rw [Directory.mk.injEq]
    exact ⟨(accounts_decides hv).unique h.accounts has, (groups_decides hv).unique h.groups hgs⟩
  -- From here on the directory is known, and the checks decide only whether it is told apart.
  have hdistinct (d : Directory) (h : DescribesDirectory root d ∧ d.Distinct) :
      Distinct ⟨accounts, groups⟩ := hunique d h.1 ▸ h.2
  have hcheckIds := checkDistinct_decides hv has (fun _ _ h ↦ h.id) fun _ _ ↦ .id
  have hcheckUuids := checkDistinct_decides hv hgs (fun _ _ h ↦ h.uuid) fun _ _ ↦ .uuid
  have hcheckNames := checkDistinct_decides hv hgs (fun _ _ h ↦ h.name) fun _ _ ↦ .name
  refine hcheckIds.bindTo (fun d h ↦ ⟨(), (hdistinct d h).ids⟩) fun _ hids ↦ ?_
  refine hcheckUuids.bindTo (fun d h ↦ ⟨(), (hdistinct d h).uuids⟩) fun _ huuids ↦ ?_
  refine hcheckNames.bindTo (fun d h ↦ ⟨(), (hdistinct d h).names⟩) fun _ hnames ↦ ?_
  exact .pureTo ⟨⟨has, hgs⟩, hids, huuids, hnames⟩ fun d h ↦ hunique d h.1

/-- A document is accepted exactly if it describes a directory whose accounts and groups are told
apart, and comes to that directory. Any other document is an error about a type or about a value,
which is true of the document. -/
theorem ofValue_accepts_described (v : Value) :
    (∀ d, ofValue v = .ok d ↔
      ∃ fields, v = record fields ∧ DescribesDirectory fields d ∧ d.Distinct) ∧
    ((¬ ∃ fields d, v = record fields ∧ DescribesDirectory fields d ∧ d.Distinct) →
      ∃ e cls, ofValue v = .error e ∧ e.At v cls) := by
  refine ⟨(ofValue_decides v).ok, fun hn ↦ ?_⟩
  obtain ⟨e, he, cls, hat⟩ := (ofValue_decides v).exists_error
    fun d ⟨fields, hv, h⟩ ↦ hn ⟨fields, d, hv, h⟩
  exact ⟨e, cls, he, hat⟩

end Directory

end GroupSearch
