import GroupSearch.Config.Settings
import GroupSearch.Proofs.Fields

namespace GroupSearch

open Value

/-- Whether a value has to be there, and whether null may stand for it. -/
inductive Need
  | required
  | optional
  | nullable
  deriving DecidableEq, Repr

def Need.Admits (shape : Shape) (v : Option Value) : Need → Prop
  | required => v.bind shape? = some shape
  | optional => v = none ∨ v.bind shape? = some shape
  | nullable => v = none ∨ v = some null ∨ v.bind shape? = some shape

namespace Settings

def sections : List (String × Need) :=
  [("log", .required), ("index", .nullable), ("directory", .required)]

def keys : List (String × String × Shape × Need) := [
  ("log", "level", .string, .required), ("log", "to_file", .boolean, .optional),
  ("log", "dir", .string, .optional), ("index", "schema_version", .integer, .optional),
  ("directory", "path", .string, .required), ("directory", "path_env", .string, .nullable)]

/-- A section or a key is missing or has a value of the wrong type. -/
inductive Misshapen (root : Fields) : Prop
  | inRoot {name : String} {need : Need} : (name, need) ∈ sections →
      ¬ need.Admits .object (field? root name) → Misshapen root
  | inSection {name key : String} {shape : Shape} {need : Need} {fields : Fields} :
      (name, key, shape, need) ∈ keys → field? root name = some (record fields) →
      ¬ need.Admits shape (field? fields key) → Misshapen root

/-- A section that may be left out. -/
inductive IsSection (root : Fields) (name : String) : Option Fields → Prop
  | absent : field? root name = none ∨ field? root name = some null → IsSection root name none
  | present {fields : Fields} : field? root name = some (record fields) →
      IsSection root name (some fields)

structure DescribesLog (fields : Fields) (s : LogSettings) : Prop where
  level : ∃ level, field? fields "level" = some (text level) ∧ s.level = Text.upperName level
  toFile : optional fields "to_file" (bool false) = bool s.toFile
  folder : optional fields "dir" (text "log") = text s.folder

/-- The path that counts is the value of the variable, unless the variable is missing or the name or
the value is empty. -/
inductive Effective (env : Environment) (path : String) : Option String → String → Prop
  | overridden {name value : String} : name ≠ "" → env.lookup name = some value → value ≠ "" →
      Effective env path (some name) value
  | kept {setting : Option String} :
      (∀ name value, setting = some name → name ≠ "" → env.lookup name = some value →
        value = "") → Effective env path setting path

structure DescribesSource (env : Environment) (fields : Fields) (s : DirectorySettings) : Prop where
  variableName : optional fields "path_env" null = nullable s.variableName
  path : ∃ path, field? fields "path" = some (text path) ∧ Effective env path s.variableName s.path

/-- The settings in a document. -/
structure Describes (env : Environment) (root : Fields) (s : Settings) : Prop where
  log : ∃ fields, field? root "log" = some (record fields) ∧ DescribesLog fields s.log
  version : ∃ fields, IsSection root "index" fields ∧
    optional (fields.getD []) "schema_version" (int Schema.latest.version) = int s.schemaVersion
  directory : ∃ fields, field? root "directory" = some (record fields) ∧
    DescribesSource env fields s.directory

/-- Settings that can be met: the level and the version are known, and no path that is needed is
blank. -/
structure Tenable (s : Settings) : Prop where
  level : s.log.level ∈ levelNames
  folder : s.log.toFile = true → Text.isBlankText s.log.folder = false
  version : ∃ known ∈ Schema.known, known.version = s.schemaVersion
  path : Text.isBlankText s.directory.path = false

end Settings

open Settings

/-- An error is true of a document: the place that it names has no value or one of another shape, or
the settings that are described cannot be met. -/
inductive SettingsError.At (env : Environment) (root : Fields) : ErrorClass → SettingsError → Prop
  | field {cls : ErrorClass} {e : FieldError} : e.At root cls → At env root cls (.field e)
  | null {name : String} : field? root name = some null →
      At env root .value (.field (.missing name))
  | level {s : Settings} : Describes env root s → s.log.level ∉ levelNames →
      At env root .value .unknownLevel
  | folder {s : Settings} : Describes env root s → s.log.toFile = true →
      Text.isBlankText s.log.folder = true → At env root .value .blankLogFolder
  | version {s : Settings} : Describes env root s →
      (∀ known ∈ Schema.known, known.version ≠ s.schemaVersion) → At env root .value .unknownSchema
  | path {s : Settings} : Describes env root s → Text.isBlankText s.directory.path = true →
      At env root .value .blankDirectory

/-- What is wrong with a section or in one; null is no section. -/
def FieldError.Blames (root : Fields) (e : FieldError) : Prop :=
  e.Fits root ∨ ∃ name, e = .missing name ∧ field? root name = some null

def SettingsError.Fits (env : Environment) (root : Fields) (e : SettingsError) : Prop :=
  ∃ cls, e.At env root cls

theorem FieldError.Blames.fits {root : Fields} {e : FieldError} (h : e.Blames root)
    (env : Environment) : (SettingsError.field e).Fits env root := by
  obtain ⟨cls, hat⟩ | ⟨name, rfl, hnull⟩ := h
  · exact ⟨cls, .field hat⟩
  · exact ⟨.value, .null hnull⟩

namespace Settings

variable {env : Environment} {root fields : Fields} {name : String}

theorem section?_decides (root : Fields) (name : String) :
    Decides (IsSection root name) (FieldError.Fits root) (section? root name) := by
  have habsent (hf : field? root name = none ∨ field? root name = some null) :
      Decides (IsSection root name) (FieldError.Fits root) (.ok none) := by
    refine .pureTo (.absent hf) fun o ho ↦ ?_
    cases ho with
    | absent => rfl
    | present h => rcases hf with hf | hf <;> cases hf.symm.trans h
  unfold section?
  split
  case h_1 hf => exact habsent (.inl hf)
  case h_2 hf => exact habsent (.inr hf)
  case h_3 v hn hf =>
    have hp : Place root name (some v) := hf ▸ .top name
    have hread := (undoes_asRecord name).decides hp
    cases v with
    | null => exact (hn rfl).elim
    | record fields =>
      refine .pureTo (.present hf) fun o ho ↦ ?_
      cases ho with
      | absent h => rcases h with h | h <;> cases hf.symm.trans h
      | present h =>
        cases hf.symm.trans h
        rfl
    | bool | int | real | other | text | list =>
      refine .fail (fun o ho ↦ ?_) (hread.error _ rfl)
      cases ho with
      | absent h => rcases h with h | h <;> cases hf.symm.trans h
      | present h => cases hf.symm.trans h

theorem requiredSection_decides (root : Fields) (name : String) :
    Decides (fun fields ↦ field? root name = some (record fields)) (FieldError.Blames root)
      (requiredSection root name) := by
  refine ((section?_decides root name).weaken fun e ↦ .inl).bindTo
    (fun fields h ↦ ⟨some fields, .present h⟩) fun o ho ↦ ?_
  cases ho with
  | present h =>
    refine .pureTo h fun fields h' ↦ ?_
    cases h.symm.trans h'
    rfl
  | absent h =>
    refine .fail (fun fields h' ↦ ?_) ?_
    · rcases h with h | h <;> cases h.symm.trans h'
    · rcases h with h | h
      · exact .inl ⟨_, .missing (h ▸ .top name)⟩
      · exact .inr ⟨name, rfl, h⟩

theorem lookupVariable_eq_some_iff {name value : String} :
    lookupVariable env name = some value ↔
      name ≠ "" ∧ env.lookup name = some value ∧ value ≠ "" := by
  unfold lookupVariable
  by_cases hn : name = ""
  · simp [hn]
  · rw [if_neg (by simpa using hn), Option.filter_eq_some_iff]
    simp [hn]

theorem effective_iff {path effective : String} {setting : Option String} :
    Effective env path setting effective ↔
      effective = (setting.bind (lookupVariable env)).getD path := by
  constructor
  · intro h
    cases h with
    | overridden hn hl hv =>
      rw [Option.bind_some, lookupVariable_eq_some_iff.2 ⟨hn, hl, hv⟩]
      rfl
    | kept h =>
      cases hb : setting.bind (lookupVariable env) with
      | none => rfl
      | some value =>
        obtain ⟨name, hs, hl⟩ := Option.bind_eq_some_iff.1 hb
        obtain ⟨hn, hl, hv⟩ := lookupVariable_eq_some_iff.1 hl
        exact (hv (h name value hs hn hl)).elim
  · intro h
    cases hb : setting.bind (lookupVariable env) with
    | none =>
      rw [hb] at h
      subst h
      refine .kept fun name value hs hn hl ↦ ?_
      by_contra hv
      rw [hs, Option.bind_some, lookupVariable_eq_some_iff.2 ⟨hn, hl, hv⟩] at hb
      cases hb
    | some value =>
      obtain ⟨name, rfl, hl⟩ := Option.bind_eq_some_iff.1 hb
      obtain ⟨hn, hl, hv⟩ := lookupVariable_eq_some_iff.1 hl
      rw [hb] at h
      subst h
      exact .overridden hn hl hv

theorem DescribesLog.unique {s t : LogSettings} (hs : DescribesLog fields s)
    (ht : DescribesLog fields t) : s = t := by
  obtain ⟨level, hlevel, hs'⟩ := hs.level
  obtain ⟨level', hlevel', ht'⟩ := ht.level
  cases hlevel.symm.trans hlevel'
  cases s
  cases t
  rw [LogSettings.mk.injEq]
  exact ⟨hs'.trans ht'.symm, bool.inj (hs.toFile.symm.trans ht.toFile),
    text.inj (hs.folder.symm.trans ht.folder)⟩

theorem DescribesSource.unique {s t : DirectorySettings} (hs : DescribesSource env fields s)
    (ht : DescribesSource env fields t) : s = t := by
  obtain ⟨path, hpath, hs'⟩ := hs.path
  obtain ⟨path', hpath', ht'⟩ := ht.path
  have hname := nullable_injective (hs.variableName.symm.trans ht.variableName)
  cases hpath.symm.trans hpath'
  rw [effective_iff] at hs' ht'
  cases s
  cases t
  dsimp only at hname hs' ht'
  rw [hs', ht', hname]

theorem readLog_decides (root : Fields) :
    Decides (fun s ↦ ∃ fields, field? root "log" = some (record fields) ∧ DescribesLog fields s)
      (FieldError.Blames root) (readLog root) := by
  refine (requiredSection_decides root "log").bind fun fields hf ↦ ?_
  have hp : Place root "log" (some (record fields)) := hf ▸ .top "log"
  have hfits (e : FieldError) : e.Fits root → e.Blames root := .inl
  refine (((undoes_asText _).required (hp.named rfl)).weaken hfits).bindTo
    (fun s h ↦ h.level.imp fun _ ↦ And.left) fun level hlevel ↦ ?_
  refine (((undoes_asBool _).optional rfl (hp.named rfl)).weaken hfits).bindTo
    (fun s h ↦ ⟨_, h.toFile⟩) fun toFile htoFile ↦ ?_
  refine (((undoes_asText _).optional rfl (hp.named rfl)).weaken hfits).bindTo
    (fun s h ↦ ⟨_, h.folder⟩) fun folder hfolder ↦ ?_
  have hs : DescribesLog fields ⟨Text.upperName level, toFile, folder⟩ :=
    ⟨⟨level, hlevel, rfl⟩, htoFile, hfolder⟩
  exact .pureTo hs fun t ht ↦ ht.unique hs

theorem readVersion_decides (root : Fields) :
    Decides (fun version ↦ ∃ fields, IsSection root "index" fields ∧
      optional (fields.getD []) "schema_version" (int Schema.latest.version) = int version)
      (FieldError.Blames root) (readVersion root) := by
  have hfits (e : FieldError) : e.Fits root → e.Blames root := .inl
  refine ((section?_decides root "index").weaken hfits).bind fun fields hf ↦ ?_
  cases hf with
  | absent => exact .pureTo rfl fun version h ↦ (int.inj h).symm
  | @present fields hf =>
    have hp : Place root "index" (some (record fields)) := hf ▸ .top "index"
    exact ((undoes_asInt _).optional rfl (hp.named rfl)).weaken hfits

theorem readDirectory_decides (env : Environment) (root : Fields) :
    Decides (fun s ↦ ∃ fields, field? root "directory" = some (record fields) ∧
      DescribesSource env fields s) (FieldError.Blames root) (readDirectory env root) := by
  refine (requiredSection_decides root "directory").bind fun fields hf ↦ ?_
  have hp : Place root "directory" (some (record fields)) := hf ▸ .top "directory"
  have hfits (e : FieldError) : e.Fits root → e.Blames root := .inl
  refine (((undoes_asText _).required (hp.named rfl)).weaken hfits).bindTo
    (fun s h ↦ h.path.imp fun _ ↦ And.left) fun path hpath ↦ ?_
  refine (((undoes_asOptionalText _).optional rfl (hp.named rfl)).weaken hfits).bindTo
    (fun s h ↦ ⟨_, h.variableName⟩) fun name hname ↦ ?_
  have hs : DescribesSource env fields ⟨(name.bind (lookupVariable env)).getD path, name⟩ :=
    ⟨hname, path, hpath, effective_iff.2 rfl⟩
  exact .pureTo hs fun t ht ↦ ht.unique hs

def readAll (env : Environment) (root : Fields) : Except FieldError Settings := do
  let log ← readLog root
  let version ← readVersion root
  let directory ← readDirectory env root
  return ⟨log, version, directory⟩

theorem ofFields_eq (env : Environment) (root : Fields) :
    ofFields env root = ((readAll env root).mapError .field >>= fun s ↦ do
      s.check
      return s) := by
  unfold ofFields readAll
  cases readLog root with
  | error e => rfl
  | ok log =>
    cases readVersion root with
    | error e => rfl
    | ok version =>
      cases readDirectory env root with
      | error e => rfl
      | ok directory => rfl

theorem readAll_decides (env : Environment) (root : Fields) :
    Decides (Describes env root) (FieldError.Blames root) (readAll env root) := by
  refine (readLog_decides root).bindTo (fun s h ↦ ⟨_, h.log⟩) fun log hlog ↦ ?_
  refine (readVersion_decides root).bindTo (fun s h ↦ ⟨_, h.version⟩) fun version hversion ↦ ?_
  refine (readDirectory_decides env root).bindTo (fun s h ↦ ⟨_, h.directory⟩)
    fun directory hdirectory ↦ ?_
  refine .pureTo ⟨hlog, hversion, hdirectory⟩ fun s h ↦ ?_
  cases s
  rw [Settings.mk.injEq]
  exact ⟨(readLog_decides root).unique h.log hlog,
    (readVersion_decides root).unique h.version hversion,
    (readDirectory_decides env root).unique h.directory hdirectory⟩

theorem check_eq_ok_iff_tenable {s : Settings} : s.check = .ok () ↔ s.Tenable := by
  rw [check_eq_ok_iff]
  constructor
  · intro ⟨hlevel, hfolder, hversion, hpath⟩
    exact ⟨hlevel, hfolder, hversion, hpath⟩
  · intro h
    exact ⟨h.level, h.folder, h.version, h.path⟩

theorem check_decides {s : Settings} (hs : Describes env root s) :
    Decides (fun _ ↦ s.Tenable) (SettingsError.Fits env root) s.check where
  ok _ := check_eq_ok_iff_tenable
  error e h := by
    refine ⟨.value, ?_⟩
    unfold check at h
    split at h
    case isTrue hl =>
      cases h
      exact .level hs (by simpa using hl)
    split at h
    case isTrue hf =>
      cases h
      rw [Bool.and_eq_true] at hf
      exact .folder hs hf.1 hf.2
    split at h
    case isTrue hv =>
      cases h
      exact .version hs (by simpa using hv)
    split at h
    case isTrue hp =>
      cases h
      exact .path hs hp
    case isFalse => cases h

theorem ofFields_decides (env : Environment) (root : Fields) :
    Decides (fun s ↦ Describes env root s ∧ s.Tenable) (SettingsError.Fits env root)
      (ofFields env root) := by
  have hread : Decides (Describes env root) (SettingsError.Fits env root)
      ((readAll env root).mapError .field) :=
    (readAll_decides env root).mapError fun e he ↦ he.fits env
  rw [ofFields_eq]
  refine hread.bindTo (fun s h ↦ ⟨s, h.1⟩) fun s hs ↦ ?_
  have hunique (t : Settings) (ht : Describes env root t) : t = s := hread.unique ht hs
  refine (check_decides hs).bindTo (fun t h ↦ ⟨(), hunique t h.1 ▸ h.2⟩) fun _ htenable ↦ ?_
  exact .pureTo ⟨hs, htenable⟩ fun t h ↦ hunique t h.1

theorem admits_of_optional {key : String} {shape : Shape} {default v : Value}
    (h : optional fields key default = v) (hv : v.shape? = some shape) :
    Need.optional.Admits shape (field? fields key) := by
  unfold Value.optional at h
  cases hf : field? fields key with
  | none => exact .inl rfl
  | some w =>
    rw [hf] at h
    subst h
    exact .inr hv

theorem admits_of_nullable {key : String} {s : Option String}
    (h : optional fields key null = nullable s) :
    Need.nullable.Admits .string (field? fields key) := by
  unfold Value.optional at h
  cases hf : field? fields key with
  | none => exact .inl rfl
  | some w =>
    rw [hf] at h
    obtain rfl : w = nullable s := h
    cases s with
    | none => exact .inr (.inl rfl)
    | some s => exact .inr (.inr rfl)

theorem Describes.not_misshapen {s : Settings} (h : Describes env root s) : ¬ Misshapen root := by
  obtain ⟨logFields, hlog, hl⟩ := h.log
  obtain ⟨indexFields, hindex, hi⟩ := h.version
  obtain ⟨directoryFields, hdirectory, hd⟩ := h.directory
  intro hm
  cases hm with
  | inRoot hmem hn =>
    simp only [sections, List.mem_cons, Prod.mk.injEq, List.not_mem_nil, or_false] at hmem
    apply hn
    obtain ⟨rfl, rfl⟩ | ⟨rfl, rfl⟩ | ⟨rfl, rfl⟩ := hmem
    · rw [hlog]
      rfl
    · cases hindex with
      | absent hf => exact hf.imp_right .inl
      | present hf => exact .inr (.inr (hf ▸ rfl))
    · rw [hdirectory]
      rfl
  | @inSection _ _ _ _ fields hmem hf hn =>
    simp only [keys, List.mem_cons, Prod.mk.injEq, List.not_mem_nil, or_false] at hmem
    apply hn
    obtain ⟨rfl, rfl, rfl, rfl⟩ | ⟨rfl, rfl, rfl, rfl⟩ | ⟨rfl, rfl, rfl, rfl⟩ |
      ⟨rfl, rfl, rfl, rfl⟩ | ⟨rfl, rfl, rfl, rfl⟩ | ⟨rfl, rfl, rfl, rfl⟩ := hmem
    · cases hlog.symm.trans hf
      obtain ⟨level, hlevel, -⟩ := hl.level
      rw [hlevel]
      rfl
    · cases hlog.symm.trans hf
      exact admits_of_optional hl.toFile rfl
    · cases hlog.symm.trans hf
      exact admits_of_optional hl.folder rfl
    · cases hindex with
      | absent h => rcases h with h | h <;> cases hf.symm.trans h
      | present h =>
        cases h.symm.trans hf
        exact admits_of_optional hi rfl
    · cases hdirectory.symm.trans hf
      obtain ⟨path, hpath, -⟩ := hd.path
      rw [hpath]
      rfl
    · cases hdirectory.symm.trans hf
      exact admits_of_nullable hd.variableName

/-- A document is accepted exactly if it describes settings that can be met, and comes to those. Any
other document is an error about a type or about a value, which is true of the document; and where a
section or a key is missing or has a value of the wrong type, the error is about one of these. -/
theorem ofFields_accepts_described (env : Environment) (root : Fields) :
    (∀ s, ofFields env root = .ok s ↔ Describes env root s ∧ s.Tenable) ∧
    ((¬ ∃ s, Describes env root s ∧ s.Tenable) →
      ∃ e cls, ofFields env root = .error e ∧ e.At env root cls) ∧
    (Misshapen root → ∃ e cls, ofFields env root = .error (.field e) ∧
      (SettingsError.field e).At env root cls) := by
  refine ⟨(ofFields_decides env root).ok, fun hn ↦ ?_, fun hm ↦ ?_⟩
  · obtain ⟨e, he, cls, hat⟩ := (ofFields_decides env root).exists_error fun s hs ↦ hn ⟨s, hs⟩
    exact ⟨e, cls, he, hat⟩
  · obtain ⟨e, he, hblames⟩ :=
      (readAll_decides env root).exists_error fun s hs ↦ hs.not_misshapen hm
    obtain ⟨cls, hat⟩ := hblames.fits env
    refine ⟨e, cls, ?_, hat⟩
    rw [ofFields_eq, he]
    rfl

/-- The level is missing, and every value that could be checked is wrong as well. -/
theorem ofFields_accepts_described_levelless :
    let root : Fields := [("log", record [("to_file", bool true), ("dir", text " ")]),
      ("index", record [("schema_version", int 9)]), ("directory", record [("path", text "")])]
    (¬ ∃ s, Describes [] root s ∧ s.Tenable) ∧ Misshapen root ∧
      (∃ e cls, ofFields [] root = .error e ∧ e.At [] root cls) ∧
      ∃ e cls, ofFields [] root = .error (.field e) ∧ (SettingsError.field e).At [] root cls := by
  intro root
  have hkey : ("log", "level", .string, .required) ∈ keys := List.mem_cons_self
  have hm : Misshapen root := .inSection hkey rfl nofun
  have hn : ¬ ∃ s, Describes [] root s ∧ s.Tenable := fun ⟨s, hs, _⟩ ↦ hs.not_misshapen hm
  obtain ⟨-, hrejected, hmisshapen⟩ := ofFields_accepts_described [] root
  exact ⟨hn, hm, hrejected hn, hmisshapen hm⟩

end Settings

end GroupSearch
