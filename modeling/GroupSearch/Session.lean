import GroupSearch.Compiler
import GroupSearch.Directory.Store

namespace GroupSearch

structure Session where
  files : FileTree
  store : Store
  log : List Log.Record

namespace Session

def note (r : Log.Record) (s : Session) : Session := { s with log := s.log ++ [r] }

def debug (message : String) : Answer Session Unit := modify (note ⟨.debug, message⟩)

def directory : Answer Session Directory := do
  let s ← get
  match s.store.snapshot with
  | some d => return d
  | none =>
    debug s!"Loading directory from {s.store.path}"
    match s.files.readDirectory s.store.reader s.store.path with
    | .error e => throw (e.lookupError s.store.path)
    | .ok d =>
      modify fun s ↦ { s with store := { s.store with snapshot := some d } }
      debug s!"Directory loaded: accounts={d.accounts.length} groups={d.groups.length}"
      return d

def accounts : Answer Session (List Account) := return (← directory).accounts

def groups : Answer Session (List Group) := return (← directory).groups

def groupIndex : Answer Session GroupIndex := do
  match (← get).store.index with
  | some index => return index
  | none =>
    let index : GroupIndex := ⟨← groups⟩
    modify fun s ↦ { s with store := { s.store with index := some index } }
    return index

def notice (reference : String) : Resolution → Answer Session Unit
  | .byUsername ids =>
    debug s!"Account {Text.quoted reference} resolved by username: {idListing ids}"
  | .byFullName ids =>
    debug s!"Account {Text.quoted reference} resolved by full name: {idListing ids}"
  | _ => pure ()

/-- A blank reference is answered without the directory. -/
def findAccounts (reference : String) : Answer Session (List Int) :=
  let trimmed := Text.trim reference
  if trimmed.isEmpty then return []
  else do
    let r := Directory.resolveTrimmed (← accounts) trimmed
    notice trimmed r
    MonadExcept.ofExcept (r.ids.mapError LookupError.ofOverlong)

def group? (uuid : String) : Answer Session (Option Group) := return (← groupIndex).get? uuid

def suggest (bound : Int) (name : String) : Answer Session (List Reference) :=
  if (Text.trim name).isEmpty then return []
  else return Directory.suggest (← groups) bound name

def lookups (bound : Int) : Lookups Session where
  accounts := findAccounts
  group := group?
  suggestions := suggest bound
  note := note

def compiler (schema : Schema) : Compiler Session := ⟨schema, lookups defaultSuggestions⟩

def ofDirectory (d : Directory) : Session := ⟨.empty, .ofDirectory d, []⟩

def ofPath (reader : Yaml.Reader) (files : FileTree) (path : Path) (schema : Schema) : Session :=
  { files
    store := .ofPath reader path
    log := [⟨.debug, s!"Directory store configured: {path}"⟩,
      ⟨.debug, s!"Group index schema version: {schema.version}"⟩] }

/-- What may be asked of a session: a change to the files, or an answer. -/
inductive Request
  | write (l : Location) (n : FileNode)
  | remove (l : Location)
  | compile (query : Option String)
  | support
  | accounts
  | groups
  | group (uuid : String)

inductive Reply
  | done
  | outcome (result : Except Defect Outcome)
  | support (operators : List (String × Bool))
  | accounts (result : Except LookupError (List Account))
  | groups (result : Except LookupError (List Group))
  | group (result : Except LookupError (Option Group))

/-- Serves one request. Whatever it comes to, the session goes on. -/
def serve (schema : Schema) : Request → StateM Session Reply
  | .write l n => do
    modify fun s ↦ { s with files := s.files.place l n }
    return .done
  | .remove l => do
    modify fun s ↦ { s with files := s.files.remove l }
    return .done
  | .compile query => return .outcome (← ((compiler schema).compile query).run)
  | .support => return .support (compiler schema).support
  | .accounts => return .accounts (← Session.accounts.run)
  | .groups => return .groups (← Session.groups.run)
  | .group uuid => return .group (← (group? uuid).run)

end Session

end GroupSearch
