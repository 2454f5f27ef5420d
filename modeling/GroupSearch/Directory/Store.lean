import GroupSearch.Directory.Groups
import GroupSearch.Directory.Lookup
import GroupSearch.Directory.Validation
import GroupSearch.Document.Yaml.Reader
import GroupSearch.Files.Tree

namespace GroupSearch

inductive LoadError
  | file (error : FileError)
  | undecodable
  | unreadable (error : Yaml.ReadError)
  | invalid (error : DirectoryError)
  deriving DecidableEq, Repr

/-- A directory that cannot be read, parsed or accepted is unavailable; a path that is none, bytes
that are no text and scalars without a value are defects. -/
def LoadError.lookupError (path : Path) : LoadError → LookupError
  | file ⟨.nullCharacter, _⟩ => .defect (.path .nullCharacter)
  | file e => .unavailable s!"Cannot read directory {path}: {e.message}"
  | undecodable => .defect .undecodable
  | unreadable (.scalar fault) => .defect (.scalar fault)
  | unreadable e => .unavailable s!"Cannot parse directory {path}: {e.message}"
  | invalid e => .unavailable s!"Invalid directory {path}: {e.message}"

def TextError.loadError : TextError → LoadError
  | file e => .file e
  | undecodable => .undecodable

/-- The directory in a file. A document without content is an empty directory. -/
def FileTree.readDirectory (t : FileTree) (reader : Yaml.Reader) (path : Path) :
    Except LoadError Directory := do
  let text ← (t.readText path).mapError TextError.loadError
  let v ← (reader text).mapError .unreadable
  (Directory.ofValue v.orEmpty).mapError .invalid

structure Store where
  reader : Yaml.Reader
  path : Path
  /-- The directory as it was read. -/
  snapshot : Option Directory
  /-- The groups by uuid, from the first lookup on. -/
  index : Option GroupIndex

namespace Store

def ofPath (reader : Yaml.Reader) (path : Path) : Store := ⟨reader, path, none, none⟩

def ofDirectory (d : Directory) : Store := ⟨Yaml.read, .ofString "<memory>", some d, none⟩

end Store

end GroupSearch
