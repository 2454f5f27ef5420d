import GroupSearch.Files.Tree
import GroupSearch.Log.Record
import GroupSearch.Log.Template
import GroupSearch.Text.CaseFold
import GroupSearch.Text.Quoted

namespace GroupSearch.Log

def levelTable : List (String × Level) :=
  [("DEBUG", .debug), ("INFO", .info), ("WARNING", .warning), ("WARN", .warning), ("ERROR", .error),
    ("CRITICAL", .critical), ("FATAL", .critical), ("NOTSET", 0)]

/-- The name of the plainest layout of a log line, and that layout. -/
def basicLayout : String × String := ("BASIC_FORMAT", "%(levelname)s:%(name)s:%(message)s")

/-- The name of the styles of layouts, and the listing of what each of them holds. -/
def layoutStyles : String × String :=
  ("_STYLES",
    "\x7b'%': (<class 'logging.PercentStyle'>, '%(levelname)s:%(name)s:%(message)s'), " ++
      "'\x7b': (<class 'logging.StrFormatStyle'>, '\x7blevelname\x7d:\x7bname\x7d:\x7bmessage\x7d'), " ++
      "'$': (<class 'logging.StringTemplateStyle'>, " ++
      "'$\x7blevelname\x7d:$\x7bname\x7d:$\x7bmessage\x7d')\x7d")

/-- A name that stands for something of logging, but for no level. -/
inductive LevelError
  /-- It stands for a text. -/
  | unknown (text : String)
  /-- It stands for a value of another type. -/
  | wrongType (listing : String)
  deriving DecidableEq, Repr

def LevelError.message : LevelError → String
  | unknown text => s!"Unknown level: {Text.quoted text}"
  | wrongType listing => s!"Level not an integer or a valid string: {listing}"

/-- The level with a name, read without regard to case; a name of nothing means the info level. -/
def levelOf (name : String) : Except LevelError Level :=
  let name := Text.upperName name
  if name = basicLayout.1 then .error (.unknown basicLayout.2)
  else if name = layoutStyles.1 then .error (.wrongType layoutStyles.2)
  else .ok ((levelTable.lookup name).getD .info)

def abbreviation (level : Level) : String :=
  if level = .debug then "DEBG"
  else if level = .info then "INFO"
  else if level = .warning then "WARN"
  else if level = .error ∨ level = .critical then "ERRO"
  else "Leve"

/-- The present time as log lines and log file names show it. -/
structure Clock where
  line : String
  file : String
  deriving DecidableEq, Repr

structure Targets where
  /-- Records below are dropped. -/
  threshold : Level
  console : Level
  file : Option Location
  deriving DecidableEq, Repr

structure Journal where
  targets : Option Targets
  console : String
  files : FileTree

namespace Journal

def ofFiles (files : FileTree) : Journal := ⟨none, "", files⟩

/-- A set-up: the least level of the console, the action that names the file, and the file's base
folder. -/
structure Setup where
  level : String
  action : Option String
  toFile : Bool
  folder : String
  deriving DecidableEq, Repr

def Setup.fileAction (s : Setup) : Option String :=
  if s.toFile then s.action.filter fun a ↦ !a.isEmpty else none

def Setup.actionFolder (s : Setup) (action : String) : Path :=
  (Path.ofString (if s.folder.isEmpty then "log" else s.folder)).join (.ofString action)

/-- The targets of a console level. Without a level of its own a logger takes that of its
surroundings, which is the warning level. -/
def targetsOf (level : Level) (file : Option Location) : Targets where
  threshold := if min Level.debug level = 0 then .warning else min Level.debug level
  console := level
  file

def openFile (clock : Clock) (s : Setup) (action : String) (files : FileTree) :
    Except FileError Location × FileTree :=
  let folder := s.actionFolder action
  match files.makeFolder folder with
  | (.error e, made) => (.error e, made)
  | (.ok (), made) =>
    match made.openLog (folder.join (.ofString (action ++ "_" ++ clock.file ++ ".log"))) with
    | .error e => (.error e, made)
    | .ok (opened, l) => (.ok l, opened)

inductive SetupError
  | level (error : LevelError)
  | file (error : FileError)
  deriving DecidableEq, Repr

def SetupError.message : SetupError → String
  | level e => e.message
  | file e => e.message

/-- The level is looked at before anything is made. -/
def configure (clock : Clock) (s : Setup) (j : Journal) : Except SetupError Unit × Journal :=
  match levelOf s.level with
  | .error e => (.error (.level e), j)
  | .ok level =>
    match s.fileAction with
    | none => (.ok (), { j with targets := some (targetsOf level none) })
    | some action =>
      match openFile clock s action j.files with
      | (.error e, files) => (.error (.file e), { j with files })
      | (.ok l, files) => (.ok (), { j with targets := some (targetsOf level (some l)), files })

def line (clock : Clock) (r : Record) : String :=
  clock.line ++ " [" ++ abbreviation r.level ++ "] " ++ r.message ++ "\n"

def emit (clock : Clock) (j : Journal) (r : Record) : Journal :=
  match j.targets with
  | none => j
  | some t =>
    if r.level < t.threshold then j
    else
      { j with
        console := if t.console ≤ r.level then j.console ++ line clock r else j.console
        files := match t.file with
          | some l => if Level.debug ≤ r.level then j.files.append l (line clock r) else j.files
          | none => j.files }

def emitAll (clock : Clock) (j : Journal) (rs : List Record) : Journal := rs.foldl (emit clock) j

/-- Logs a template with the values for its places, unless they do not fit it. -/
def log (clock : Clock) (j : Journal) (level : Level) (template : String) (values : List Value) :
    Journal :=
  ((message template values).map (Record.mk level)).elim j (emit clock j)

theorem targets_of_configure_error {clock : Clock} {s : Setup} {j j' : Journal} {e : SetupError}
    (h : j.configure clock s = (.error e, j')) : j'.targets = j.targets := by
  unfold configure at h
  split at h
  · cases h
    rfl
  · split at h
    · cases h
    · split at h <;> cases h
      rfl

end Journal

end GroupSearch.Log
