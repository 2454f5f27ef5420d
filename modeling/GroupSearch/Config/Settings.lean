import GroupSearch.Document.Field
import GroupSearch.Index.Schema
import GroupSearch.Text.Blank
import GroupSearch.Text.CaseFold
import GroupSearch.Text.Quoted

namespace GroupSearch

abbrev Environment := List (String × String)

structure LogSettings where
  level : String
  toFile : Bool
  folder : String
  deriving DecidableEq, Repr

structure DirectorySettings where
  path : String
  /-- The environment variable that overrides the path. -/
  variableName : Option String
  deriving DecidableEq, Repr

structure Settings where
  log : LogSettings
  schemaVersion : Int
  directory : DirectorySettings
  deriving DecidableEq, Repr

inductive SettingsError
  | field (error : FieldError)
  | unknownLevel
  | blankLogFolder
  | unknownSchema
  | blankDirectory
  deriving DecidableEq, Repr

namespace Settings

open Value

def levelNames : List String := ["CRITICAL", "DEBUG", "ERROR", "INFO", "WARNING"]

def bracketed (items : List String) : String := "[" ++ ", ".intercalate items ++ "]"

end Settings

def SettingsError.message : SettingsError → String
  | field e => e.message
  | unknownLevel =>
    "log.level must be one of " ++ Settings.bracketed (Settings.levelNames.map Text.quoted)
  | blankLogFolder => "log.dir must not be empty when log.to_file=true"
  | unknownSchema =>
    "index.schema_version must be one of " ++
      Settings.bracketed (Schema.known.map fun s ↦ toString s.version)
  | blankDirectory => "directory.path must not be empty"

namespace Settings

open Value

def requiredSection (root : Fields) (name : String) : Except FieldError Fields := do
  match ← section? root name with
  | some fields => return fields
  | none => throw (.missing name)

def readLog (root : Fields) : Except FieldError LogSettings := do
  let fields ← requiredSection root "log"
  let level ← required fields "level" "log.level" >>= asText "log.level"
  let toFile ← (optional fields "to_file" (bool false)).asBool "log.to_file"
  let folder ← (optional fields "dir" (text "log")).asText "log.dir"
  return ⟨Text.upperName level, toFile, folder⟩

def readVersion (root : Fields) : Except FieldError Int := do
  let fields := (← section? root "index").getD []
  (optional fields "schema_version" (int Schema.latest.version)).asInt "index.schema_version"

def lookupVariable (env : Environment) (name : String) : Option String :=
  if name.isEmpty then none else (env.lookup name).filter fun v ↦ !v.isEmpty

def readDirectory (env : Environment) (root : Fields) : Except FieldError DirectorySettings := do
  let fields ← requiredSection root "directory"
  let path ← required fields "path" "directory.path" >>= asText "directory.path"
  let name ← (optional fields "path_env" null).asOptionalText "directory.path_env"
  return ⟨(name.bind (lookupVariable env)).getD path, name⟩

def check (s : Settings) : Except SettingsError Unit :=
  if !levelNames.contains s.log.level then .error .unknownLevel
  else if s.log.toFile && Text.isBlankText s.log.folder then .error .blankLogFolder
  else if !Schema.known.any (fun k ↦ k.version == s.schemaVersion) then .error .unknownSchema
  else if Text.isBlankText s.directory.path then .error .blankDirectory
  else .ok ()

def ofFields (env : Environment) (root : Fields) : Except SettingsError Settings := do
  let log ← (readLog root).mapError .field
  let schemaVersion ← (readVersion root).mapError .field
  let directory ← (readDirectory env root).mapError .field
  let s : Settings := ⟨log, schemaVersion, directory⟩
  s.check
  return s

def schema (s : Settings) : Except SchemaError Schema := Schema.ofVersion? s.schemaVersion

theorem check_eq_ok_iff {s : Settings} : s.check = .ok () ↔
    s.log.level ∈ levelNames ∧ (s.log.toFile = true → Text.isBlankText s.log.folder = false) ∧
      (∃ k ∈ Schema.known, k.version = s.schemaVersion) ∧
      Text.isBlankText s.directory.path = false := by
  have hlevel : levelNames.contains s.log.level = true ↔ s.log.level ∈ levelNames :=
    List.contains_iff_mem
  have hschema : Schema.known.any (fun k ↦ k.version == s.schemaVersion) = true ↔
      ∃ k ∈ Schema.known, k.version = s.schemaVersion := by
    simp only [List.any_eq_true, beq_iff_eq]
  rw [← hlevel, ← hschema]
  unfold check
  cases levelNames.contains s.log.level <;> cases s.log.toFile <;>
    cases Text.isBlankText s.log.folder <;>
    cases Schema.known.any (fun k ↦ k.version == s.schemaVersion) <;>
    cases Text.isBlankText s.directory.path <;> simp

end Settings

end GroupSearch
