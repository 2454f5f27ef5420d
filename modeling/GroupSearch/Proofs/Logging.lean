import GroupSearch.Config.Settings
import GroupSearch.Log.Journal
import GroupSearch.Proofs.FileChanges

namespace GroupSearch.Log

def levelNamed : String → Level
  | "DEBUG" => .debug
  | "WARNING" => .warning
  | "ERROR" => .error
  | "CRITICAL" => .critical
  | _ => .info

theorem levelOf_of_mem {name : String} (h : name ∈ Settings.levelNames) :
    levelOf name = .ok (levelNamed name) := by
  simp only [Settings.levelNames, List.mem_cons, List.not_mem_nil, or_false] at h
  obtain rfl | rfl | rfl | rfl | rfl := h <;> rfl

theorem debug_le_levelNamed (name : String) : Level.debug ≤ levelNamed name := by
  unfold levelNamed
  split <;> decide

namespace Journal

inductive Event
  | setup (clock : Clock) (s : Setup)
  | record (clock : Clock) (r : Record)
  deriving DecidableEq, Repr

def Event.Allowed : Event → Prop
  | setup _ s => s.level ∈ Settings.levelNames
  | record _ r => Level.debug ≤ r.level

def step (j : Journal) : Event → Journal
  | .setup clock s => (j.configure clock s).2
  | .record clock r => j.emit clock r

def run (j : Journal) (es : List Event) : Journal := es.foldl step j

/-- What a set-up says about the records after it: the least level that the console shows, and the
file that takes all of them. -/
structure Ruling where
  level : Level
  file : Option Location
  deriving DecidableEq, Repr

def Setup.logPath (clock : Clock) (s : Setup) (action : String) : Path :=
  (s.actionFolder action).join (.ofString (action ++ "_" ++ clock.file ++ ".log"))

/-- The ruling of a set-up that left the files as given. -/
def Setup.ruling (clock : Clock) (s : Setup) (files : FileTree) : Ruling where
  level := levelNamed s.level
  file := s.fileAction.bind fun action ↦ (files.locate (s.logPath clock action)).toOption

structure Told where
  clock : Clock
  record : Record
  ruling : Ruling

def Told.line (e : Told) : String := Journal.line e.clock e.record

/-- The records of a run, each with the ruling of the last set-up before it that succeeded. -/
def tell (j : Journal) (ruling : Ruling) : List Event → List Told
  | [] => []
  | .setup clock s :: es =>
    match j.configure clock s with
    | (.ok (), j') => tell j' (s.ruling clock j'.files) es
    | (.error _, j') => tell j' ruling es
  | .record clock r :: es => ⟨clock, r, ruling⟩ :: tell (j.emit clock r) ruling es

def consoleLines (told : List Told) : String :=
  String.join ((told.filter fun e ↦ e.ruling.level ≤ e.record.level).map Told.line)

/-- The lines of the records that the file at a location is to take. -/
def fileLines (l : Location) (told : List Told) : String :=
  String.join ((told.filter fun e ↦ e.ruling.file = some l).map Told.line)

variable {clock : Clock} {s : Setup} {action : String} {files opened : FileTree} {l : Location}
  {j j' j'' : Journal} {e : SetupError} {ruling : Ruling} {r : Record} {es : List Event}

theorem consoleLines_cons (e : Told) (told : List Told) : consoleLines (e :: told) =
    (if e.ruling.level ≤ e.record.level then e.line else "") ++ consoleLines told := by
  unfold consoleLines
  by_cases h : e.ruling.level ≤ e.record.level <;> simp [h]

theorem fileLines_cons (l : Location) (e : Told) (told : List Told) : fileLines l (e :: told) =
    (if e.ruling.file = some l then e.line else "") ++ fileLines l told := by
  unfold fileLines
  by_cases h : e.ruling.file = some l <;> simp [h]

theorem openFile_extends (clock : Clock) (s : Setup) (action : String) (files : FileTree) :
    files.Extends (openFile clock s action files).2 := by
  have hmade := files.makeFolder_extends (s.actionFolder action)
  unfold openFile
  dsimp only
  split
  next e made h =>
    rw [h] at hmade
    exact hmade
  next made h =>
    rw [h] at hmade
    split
    next => exact hmade
    next opened l h => exact hmade.trans (FileTree.openLog_spec h).1

theorem openFile_spec (h : openFile clock s action files = (.ok l, opened)) :
    opened.HasFile l ∧ opened.locate (s.logPath clock action) = .ok l := by
  unfold openFile at h
  dsimp only at h
  split at h
  · cases h
  · split at h
    · cases h
    next opened' l' ho =>
      cases h
      exact (FileTree.openLog_spec ho).2

/-- The second journal has what the first has, with more text on the console and in the files. -/
structure Gains (j j' : Journal) (shown : String) (kept : Location → String) : Prop where
  console : j'.console = j.console ++ shown
  bytes (l : Location) : j'.files.bytes l = j.files.bytes l ++ (kept l).toUTF8

theorem Gains.of_extends (hc : j'.console = j.console) (h : j.files.Extends j'.files) :
    j.Gains j' "" fun _ ↦ "" where
  console := by rw [hc, String.append_empty]
  bytes l := by
    rw [h.bytes_eq l]
    exact ByteArray.append_empty.symm

theorem Gains.trans {shown shown' : String} {kept kept' : Location → String}
    (h : j.Gains j' shown kept) (h' : j'.Gains j'' shown' kept') :
    j.Gains j'' (shown ++ shown') fun l ↦ kept l ++ kept' l where
  console := by rw [h'.console, h.console, String.append_assoc]
  bytes l := by
    rw [h'.bytes, h.bytes, ByteArray.append_assoc]
    rfl

theorem configure_extends (clock : Clock) (s : Setup) (j : Journal) :
    j.files.Extends (j.configure clock s).2.files := by
  unfold configure
  split
  · exact .refl _
  · split
    · exact .refl _
    next action _ =>
      have ho := openFile_extends clock s action j.files
      split
      next h =>
        rw [h] at ho
        exact ho
      next h =>
        rw [h] at ho
        exact ho

theorem configure_gains (clock : Clock) (s : Setup) (j : Journal) :
    j.Gains (j.configure clock s).2 "" fun _ ↦ "" := by
  refine .of_extends ?_ (configure_extends clock s j)
  unfold configure
  split
  · rfl
  · split
    · rfl
    · split <;> rfl

/-- The journal sends records where the ruling says, and the file of the ruling is there. -/
structure Follows (j : Journal) (ruling : Ruling) : Prop where
  targets : j.targets = some (targetsOf ruling.level ruling.file)
  level : Level.debug ≤ ruling.level
  file : ∀ l, ruling.file = some l → j.files.HasFile l

theorem configure_of_isOk (h : (j.configure clock s).1.isOk = true) :
    j.configure clock s = (.ok (), (j.configure clock s).2) := by
  generalize j.configure clock s = answer at h
  obtain ⟨e | u, j'⟩ := answer
  · cases h
  · rfl

theorem configure_eq_ok (h : j.configure clock s = (.ok (), j')) :
    ∃ level, levelOf s.level = .ok level ∧
      (s.fileAction = none ∧ j' = { j with targets := some (targetsOf level none) } ∨
        ∃ action l opened, s.fileAction = some action ∧
          openFile clock s action j.files = (.ok l, opened) ∧
          j' = { j with targets := some (targetsOf level (some l)), files := opened }) := by
  unfold configure at h
  split at h
  · cases h
  next level hlevel =>
    refine ⟨level, hlevel, ?_⟩
    split at h
    next hnone =>
      cases h
      exact .inl ⟨hnone, rfl⟩
    next action hsome =>
      split at h
      · cases h
      next l opened ho =>
        cases h
        exact .inr ⟨action, l, opened, hsome, ho, rfl⟩

theorem ruling_file_of_none (h : s.fileAction = none) (clock : Clock) (files : FileTree) :
    (s.ruling clock files).file = none := by
  rw [Setup.ruling, h]
  rfl

theorem ruling_file_of_openFile (h : s.fileAction = some action)
    (ho : openFile clock s action files = (.ok l, opened)) :
    (s.ruling clock opened).file = some l := by
  have hlocate := (openFile_spec ho).2
  simp only [Setup.ruling, h, Option.bind_some, hlocate, Except.toOption]

theorem follows_of_configure (hs : s.level ∈ Settings.levelNames)
    (h : j.configure clock s = (.ok (), j')) : j'.Follows (s.ruling clock j'.files) := by
  obtain ⟨level, hlevel, hcases⟩ := configure_eq_ok h
  obtain rfl : levelNamed s.level = level :=
    Except.ok.inj ((levelOf_of_mem hs).symm.trans hlevel)
  obtain ⟨hnone, rfl⟩ | ⟨action, l, opened, hsome, ho, rfl⟩ := hcases
  · have hfile := ruling_file_of_none hnone clock j.files
    exact ⟨by rw [hfile]; rfl, debug_le_levelNamed _, fun k hk ↦ nomatch hfile.symm.trans hk⟩
  · have hfile := ruling_file_of_openFile hsome ho
    refine ⟨by rw [hfile]; rfl, debug_le_levelNamed _, ?_⟩
    intro k hk
    obtain rfl : l = k := Option.some.inj (hfile.symm.trans hk)
    exact (openFile_spec ho).1

theorem Follows.configure_error (hj : j.Follows ruling)
    (h : j.configure clock s = (.error e, j')) : j'.Follows ruling where
  targets := (targets_of_configure_error h).trans hj.targets
  level := hj.level
  file l hl := by
    have hext := configure_extends clock s j
    rw [h] at hext
    exact hext.hasFile (hj.file l hl)

theorem threshold_targetsOf {level : Level} {file : Option Location} (h : Level.debug ≤ level) :
    (targetsOf level file).threshold = .debug := by
  unfold targetsOf
  rw [Int.min_eq_left h]
  rfl

theorem Follows.emit_eq (hj : j.Follows ruling) (hr : Level.debug ≤ r.level) (clock : Clock) :
    j.emit clock r =
      { j with
        console := if ruling.level ≤ r.level then j.console ++ line clock r else j.console
        files := match ruling.file with
          | some l => j.files.append l (line clock r)
          | none => j.files } := by
  unfold emit
  rw [hj.targets]
  dsimp only
  rw [threshold_targetsOf hj.level, if_neg (Int.not_lt.2 hr)]
  simp only [targetsOf, if_pos hr]
  rfl

theorem Follows.emit (hj : j.Follows ruling) (hr : Level.debug ≤ r.level) (clock : Clock) :
    (j.emit clock r).Follows ruling := by
  rw [hj.emit_eq hr]
  refine ⟨hj.targets, hj.level, ?_⟩
  intro l hl
  dsimp only
  rw [hl]
  exact (hj.file l hl).append _

/-- A record is written once wherever the ruling sends it. -/
theorem Follows.emit_gains (hj : j.Follows ruling) (hr : Level.debug ≤ r.level) (clock : Clock) :
    j.Gains (j.emit clock r) (if ruling.level ≤ r.level then line clock r else "")
      fun l ↦ if ruling.file = some l then line clock r else "" where
  console := by
    rw [hj.emit_eq hr]
    by_cases h : ruling.level ≤ r.level
    · simp only [if_pos h]
    · simp only [if_neg h, String.append_empty]
  bytes l := by
    rw [hj.emit_eq hr]
    cases hf : ruling.file with
    | none => exact ByteArray.append_empty.symm
    | some k =>
      dsimp only
      rw [FileTree.bytes_append (hj.file k hf)]
      by_cases hl : l = k
      · subst hl
        rw [if_pos rfl, if_pos rfl]
      · rw [if_neg hl, if_neg fun h ↦ hl (Option.some.inj h).symm]
        exact ByteArray.append_empty.symm

/-- By induction on the run, from the ruling that the journal follows at its start. -/
theorem Follows.run_gains (hj : j.Follows ruling) (hes : ∀ e ∈ es, e.Allowed) :
    j.Gains (j.run es) (consoleLines (tell j ruling es))
      fun l ↦ fileLines l (tell j ruling es) := by
  induction es generalizing j ruling with
  | nil => exact .of_extends rfl (.refl _)
  | cons e es ih =>
    have he : e.Allowed := hes e List.mem_cons_self
    replace ih {j : Journal} {ruling : Ruling} (hj : j.Follows ruling) :=
      ih hj fun e' h ↦ hes e' (List.mem_cons_of_mem e h)
    change j.Gains ((j.step e).run es) _ _
    cases e with
    | setup clock s =>
      have hset := configure_gains clock s j
      rw [step, tell]
      split
      next j' hc =>
        rw [hc] at hset ⊢
        simpa using hset.trans (ih (follows_of_configure he hc))
      next e j' hc =>
        rw [hc] at hset ⊢
        simpa using hset.trans (ih (hj.configure_error hc))
    | record clock r =>
      simp only [tell, consoleLines_cons, fileLines_cons]
      exact (hj.emit_gains he clock).trans (ih (hj.emit he clock))

theorem fileAction_eq_some_iff :
    s.fileAction = some action ↔ s.toFile = true ∧ s.action = some action ∧ action ≠ "" := by
  unfold Setup.fileAction
  cases s.toFile <;> simp

theorem ruling_file_isSome_iff (h : j.configure clock s = (.ok (), j')) :
    (s.ruling clock j'.files).file.isSome = true ↔
      s.toFile = true ∧ ∃ action, s.action = some action ∧ action ≠ "" := by
  have hasked : s.fileAction.isSome = true ↔
      s.toFile = true ∧ ∃ action, s.action = some action ∧ action ≠ "" := by
    simp only [Option.isSome_iff_exists, fileAction_eq_some_iff, exists_and_left]
  rw [← hasked]
  obtain ⟨level, -, ⟨hnone, rfl⟩ | ⟨action, l, opened, hsome, ho, rfl⟩⟩ := configure_eq_ok h
  · rw [hnone, ruling_file_of_none hnone]
    rfl
  · rw [hsome, ruling_file_of_openFile hsome ho]
    rfl

def Event.recorded? : Event → Option (Clock × Record)
  | setup _ _ => none
  | record clock r => some (clock, r)

theorem tell_recorded (j : Journal) (ruling : Ruling) (es : List Event) :
    (tell j ruling es).map (fun e ↦ (e.clock, e.record)) = es.filterMap Event.recorded? := by
  induction es generalizing j ruling with
  | nil => rfl
  | cons e es ih =>
    cases e with
    | setup clock s =>
      rw [tell]
      split <;> exact ih _ _
    | record clock r => exact congrArg ((clock, r) :: ·) (ih _ _)

/-- From a set-up that succeeds on, every record is written once to the console if its level is at
least that of the last set-up that succeeded, and once to the log file of that set-up if there is
one. A set-up that fails leaves the targets and what is written as they are. -/
theorem last_setup_rules (hs : s.level ∈ Settings.levelNames)
    (h : j.configure clock s = (.ok (), j')) (hes : ∀ e ∈ es, e.Allowed) :
    let ruling := s.ruling clock j'.files
    let told := tell j' ruling es
    (ruling.file.isSome = true ↔
        s.toFile = true ∧ ∃ action, s.action = some action ∧ action ≠ "") ∧
      told.map (fun e ↦ (e.clock, e.record)) = es.filterMap Event.recorded? ∧
      j'.Gains (j'.run es) (consoleLines told) (fun l ↦ fileLines l told) ∧
      ∀ (before failed : Journal) clock s e, before.configure clock s = (.error e, failed) →
        failed.targets = before.targets ∧ before.Gains failed "" fun _ ↦ "" := by
  intro ruling told
  refine ⟨ruling_file_isSome_iff h, tell_recorded j' ruling es,
    (follows_of_configure hs h).run_gains hes, ?_⟩
  intro before failed clock s e hf
  have hgains := configure_gains clock s before
  rw [hf] at hgains
  exact ⟨targets_of_configure_error hf, hgains⟩

def blockedJournal : Journal := ofFiles ⟨[(["blocked"], .file .empty)]⟩

def midnight : Clock := ⟨"01-01 00:00:00", "0101000000"⟩

def midnightLog : Location := ["log", "parse", "parse_0101000000.log"]

def mixedRun : List Event :=
  [.record midnight ⟨.debug, "a"⟩, .record midnight ⟨.error, "b"⟩,
    .setup midnight ⟨"CRITICAL", some "parse", true, "blocked"⟩, .record midnight ⟨.warning, "c"⟩,
    .setup midnight ⟨"INFO", some "parse", false, "log"⟩, .record midnight ⟨.info, "d"⟩,
    .record midnight ⟨.debug, "e"⟩]

/-- After a set-up with a file the failing one changes nothing, and the last one ends the file. -/
theorem last_setup_rules_mixedRun :
    let s : Setup := ⟨"WARNING", some "parse", true, "log"⟩
    let j := (blockedJournal.configure midnight s).2
    s.level ∈ Settings.levelNames ∧ blockedJournal.configure midnight s = (.ok (), j) ∧
      (∀ e ∈ mixedRun, e.Allowed) ∧
      (j.run mixedRun).console = "01-01 00:00:00 [ERRO] b\n01-01 00:00:00 [WARN] c\n" ++
        "01-01 00:00:00 [INFO] d\n" ∧
      (j.run mixedRun).files.bytes midnightLog =
        ("01-01 00:00:00 [DEBG] a\n01-01 00:00:00 [ERRO] b\n" ++
          "01-01 00:00:00 [WARN] c\n").toUTF8 := by
  intro s j
  have hs : s.level ∈ Settings.levelNames := by decide
  have h : blockedJournal.configure midnight s = (.ok (), j) :=
    configure_of_isOk (by decide +kernel)
  have hallowed : ∀ e ∈ mixedRun, e.Allowed := by
    simp [mixedRun, Event.Allowed, Settings.levelNames, Level.debug, Level.error, Level.warning,
      Level.info]
  obtain ⟨-, -, hgains, -⟩ := last_setup_rules hs h hallowed
  have hconsole : j.console = "" := by decide +kernel
  have hbytes : j.files.bytes midnightLog = "".toUTF8 := by decide +kernel
  have hshown : consoleLines (tell j (s.ruling midnight j.files) mixedRun) =
      "01-01 00:00:00 [ERRO] b\n01-01 00:00:00 [WARN] c\n" ++ "01-01 00:00:00 [INFO] d\n" := by
    decide +kernel
  have hkept : fileLines midnightLog (tell j (s.ruling midnight j.files) mixedRun) =
      "01-01 00:00:00 [DEBG] a\n01-01 00:00:00 [ERRO] b\n" ++ "01-01 00:00:00 [WARN] c\n" := by
    decide +kernel
  refine ⟨hs, h, hallowed, ?_, ?_⟩
  · rw [hgains.console, hconsole, hshown]
    rfl
  · rw [hgains.bytes, hbytes, hkept]
    rfl

end Journal

end GroupSearch.Log
