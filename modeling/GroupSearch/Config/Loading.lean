import GroupSearch.Config.Settings
import GroupSearch.Document.Yaml.Reader
import GroupSearch.Files.Tree

namespace GroupSearch

inductive ConfigError
  | file (error : FileError)
  | undecodable
  | unreadable (error : Yaml.ReadError)
  | notRecord
  /-- The default settings and those laid over them hold themselves in the same place. -/
  | endless
  | settings (error : SettingsError)
  deriving DecidableEq, Repr

def ConfigError.message : ConfigError → String
  | file e => e.message
  | undecodable => "the file is not UTF-8"
  | unreadable e => e.message
  | notRecord => "Config root must be a mapping/object"
  | endless => "maximum recursion depth exceeded in comparison"
  | settings e => e.message

/-- Of scalars in settings only wrong values and wrong types are expected, and settings are expected
to end. -/
def ConfigError.isExpected : ConfigError → Bool
  | unreadable (.scalar fault) => fault.kind = .value ∨ fault.kind = .type
  | endless => false
  | _ => true

def TextError.configError : TextError → ConfigError
  | file e => .file e
  | undecodable => .undecodable

namespace Settings

def defaultPath : Path := .ofString "config/default.yml"

structure Layer where
  fields : Value.Fields
  links : Yaml.Links

def layerOfText (loader : Yaml.Loader) (text : String) : Except ConfigError Layer := do
  let loaded ← (loader text).mapError ConfigError.unreadable
  match loaded.value.orEmpty with
  | .record fields => return ⟨fields, loaded.links⟩
  | _ => throw .notRecord

def layerOfFile (loader : Yaml.Loader) (files : FileTree) (path : Path) :
    Except ConfigError Layer := do
  layerOfText loader (← (files.readText path).mapError TextError.configError)

def mergeRecords (base upper : Value.Fields) : Value.Fields :=
  match Value.merge (.record base) (.record upper) with
  | .record fields => fields
  | _ => upper

/-- The settings of one layer over those of another. Mappings under the same key are merged in
turn, which comes to no end where both hold themselves. -/
def Layer.under (base upper : Layer) : Except ConfigError Value.Fields :=
  if base.links.endless upper.links then .error .endless
  else .ok (mergeRecords base.fields upper.fields)

/-- Lays a file over the default settings. A file is not laid over itself, but read once. -/
def loadBy (loader : Yaml.Loader) (files : FileTree) (env : Environment) (path default : Path) :
    Except ConfigError Settings := do
  let base ← layerOfFile loader files default
  if path = default then (ofFields env base.fields).mapError .settings
  else
    let upper ← layerOfFile loader files path
    (ofFields env (← base.under upper)).mapError .settings

def load (files : FileTree) (env : Environment) (path default : Path) :
    Except ConfigError Settings := loadBy Yaml.load files env path default

end Settings

end GroupSearch
