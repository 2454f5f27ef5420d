import GroupSearch.Command.Arguments
import GroupSearch.Config.Loading
import GroupSearch.Log.Journal
import GroupSearch.Session
import GroupSearch.Text.ControlSequence

namespace GroupSearch.Command

structure Result where
  exitCode : Nat
  stdout : String
  stderr : String
  files : FileTree

/-- What a command cannot report in its result. -/
inductive Escape
  /-- The path of the settings is no path. -/
  | path (fault : FileFault)
  | settings (error : ConfigError)
  | setup (error : Log.Journal.SetupError)
  deriving DecidableEq, Repr

def Escape.message : Escape → String
  | path fault => fault.phrase
  | settings e => e.message
  | setup e => e.message

structure World where
  files : FileTree
  environment : Environment
  clock : Log.Clock

/-- A finished action: whether it went well and what it shows, or nothing if it was given up. -/
structure Report where
  shown : Option (Bool × String)
  journal : Log.Journal

def setup (settings : Settings) (action : String) : Log.Journal.Setup where
  level := settings.log.level
  action := some action
  toFile := settings.log.toFile
  folder := settings.log.folder

/-- Runs an action with logging set up, on the files that this leaves. A log file that cannot be
opened ends it before it starts; a defect is logged and ends it. -/
def perform (reader : Yaml.Reader) (w : World) (settings : Settings) (action failure : String)
    (schema : Schema)
    (act : Compiler Session → ExceptT Defect (StateM Session) (Bool × String)) :
    Except Log.Journal.SetupError Report :=
  match (Log.Journal.ofFiles w.files).configure w.clock (setup settings action) with
  | (.error e, _) => .error e
  | (.ok _, journal) =>
    let session := Session.ofPath reader journal.files (.ofString settings.directory.path) schema
    let (result, session) := (act (Session.compiler schema)).run.run session
    let journal := journal.emitAll w.clock session.log
    match result with
    | .ok shown => .ok ⟨some shown, journal⟩
    | .error d =>
      .ok ⟨none, journal.log w.clock .error (failure ++ ": %s") [.text d.message]⟩

def parse (format : OutputFormat) (query : String) (c : Compiler Session) :
    ExceptT Defect (StateM Session) (Bool × String) := do
  let outcome ← c.compile query
  return (outcome.isOk, outcome.render format (some query))

def padded (width : Nat) (s : String) : String :=
  s.pushn ' ' (width - s.length)

def operatorLine (o : String × Bool) : String :=
  s!"  {padded 12 o.1} " ++ if o.2 then "yes" else "no (index upgrade required)"

def operatorListing {σ : Type} (c : Compiler σ) : String :=
  "\n".intercalate (s!"Group index schema version: {c.schema.version}" ::
    (c.support.map operatorLine ++ [s!"  {padded 12 Operator.reserved} reserved"]))

def operators (c : Compiler Session) : ExceptT Defect (StateM Session) (Bool × String) :=
  return (true, operatorListing c)

def declined (files : FileTree) : Declined → Result
  | .usage => ⟨2, "", "Usage: [--config PATH] parse [--format text|json] QUERY | operators\n", files⟩
  | .help => ⟨0, "Usage: [--config PATH] parse [--format text|json] QUERY | operators\n", "", files⟩

def Report.result (r : Report) : Result :=
  match r.shown with
  | some (good, text) =>
    ⟨if good then 0 else 1, Text.bare (text ++ "\n"), r.journal.console, r.journal.files⟩
  | none => ⟨1, "", r.journal.console ++ "Aborted!\n", r.journal.files⟩

def runParse (w : World) (settings : Settings) (schema : Schema) (given : List String) :
    Except Log.Journal.SetupError Result :=
  match arguments ["--format"] true given with
  | .error d => .ok (declined w.files d)
  | .ok a =>
    match a.operands, OutputFormat.ofName? ((a.value? "--format").getD "text") with
    | [query], .ok format =>
      (perform Yaml.read w settings "parse" "Parse failed" schema (parse format query)).map
        Report.result
    | _, _ => .ok (declined w.files .usage)

def runOperators (w : World) (settings : Settings) (schema : Schema) (given : List String) :
    Except Log.Journal.SetupError Result :=
  match arguments [] true given with
  | .error d => .ok (declined w.files d)
  | .ok a =>
    if a.operands.isEmpty then
      (perform Yaml.read w settings "operators" "Listing operators failed" schema operators).map
        Report.result
    else .ok (declined w.files .usage)

def configPath (a : Arguments) : Path :=
  ((a.value? "--config").map Path.ofString).getD Settings.defaultPath

def isLookedAt (name : String) : Bool :=
  !name.isEmpty && name.utf8ByteSize ≤ FileTree.longestPath

def isUsable (files : FileTree) (a : Arguments) : Bool :=
  !(((a.value? "--config").all isLookedAt) && files.isFolder (configPath a))

def badSettings (files : FileTree) (path : Path) (message : String) : Result :=
  ⟨1, "", Text.bare s!"Error: Invalid config {path}: {message}\n", files⟩

def runWith (w : World) (path : Path) (command : String) (given : List String) :
    Except Escape Result :=
  match Settings.load w.files w.environment path Settings.defaultPath with
  | .error e =>
    if e.isExpected then .ok (badSettings w.files path e.message) else .error (.settings e)
  | .ok settings =>
    match settings.schema with
    | .error e => .ok (badSettings w.files path e.message)
    | .ok schema =>
      Except.mapError .setup <|
        if command = "parse" then runParse w settings schema given
        else runOperators w settings schema given

/-- Options of the program come in front of the command. Settings are read once the command is
known, and before its own arguments are looked at. -/
def run (w : World) (given : List String) : Except Escape Result :=
  match arguments ["--config"] false given with
  | .error d => .ok (declined w.files d)
  | .ok a =>
    let path := configPath a
    if path.hasNull then .error (.path .nullCharacter)
    else
      match isUsable w.files a, a.operands with
      | true, command :: rest =>
        if command = "parse" ∨ command = "operators" then runWith w path command rest
        else .ok (declined w.files .usage)
      | _, _ => .ok (declined w.files .usage)

end GroupSearch.Command
