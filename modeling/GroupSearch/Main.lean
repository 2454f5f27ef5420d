import GroupSearch.Command.Run
import Std.Time.Format

namespace GroupSearch.Main

def nodeAt (p : Path) : IO (Option FileNode) := do
  try
    return some (.file (← IO.FS.readBinFile p.toString))
  catch e =>
    match e with
    | .inappropriateType _ 21 _ => return some .folder
    | _ => return none

def observe (t : FileTree) (p : Path) : IO FileTree :=
  (List.range p.parts.length).foldlM (fun t i ↦ do
    let ahead : Path := ⟨p.root, p.parts.take (i + 1)⟩
    match t.locate ahead, ← nodeAt ahead with
    | .ok l, some n => return t.put l n
    | _, _ => return t) t

/-- The environment as far as settings can ask for it. -/
def environment (settings : Except ConfigError Settings) : IO Environment := do
  match settings with
  | .ok ⟨_, _, _, some name⟩ => return (← IO.getEnv name).toList.map fun v ↦ (name, v)
  | _ => return []

def world (given : List String) : IO Command.World := do
  let path := match Command.arguments ["--config"] false given with
    | .ok a => (a.value? "--config").map Path.ofString
    | .error _ => none
  let path := path.getD Settings.defaultPath
  let files ← observe (← observe .empty Settings.defaultPath) path
  let env ← environment (Settings.load files [] path Settings.defaultPath)
  let files ← match Settings.load files env path Settings.defaultPath with
    | .ok s => do
      let files ← observe files (.ofString s.directory.path)
      let folder := (Command.setup s "").actionFolder
      observe (← observe files (folder "parse")) (folder "operators")
    | .error _ => pure files
  let now :=
    Std.Time.DateTime.ofTimestamp (← Std.Time.Timestamp.now) Std.Time.TimeZone.ZoneRules.UTC
  return ⟨files, env, ⟨now.format "MM-dd HH:mm:ss", now.format "MMddHHmmss"⟩⟩

def pathText : Location → String
  | "/" :: names => "/" ++ "/".intercalate names
  | names => "/".intercalate names

def writeNew (before after : FileTree) : IO Unit :=
  (after.contents.filter fun f ↦ (before.node? f.1).isNone).forM fun (l, content) ↦ do
    IO.FS.createDirAll (pathText l.dropLast)
    let handle ← IO.FS.Handle.mk (pathText l) .append
    handle.write content

end GroupSearch.Main

open GroupSearch in
def main (given : List String) : IO UInt32 := do
  let w ← Main.world given
  match Command.run w given with
  | .error e =>
    (← IO.getStderr).putStrLn e.message
    return 1
  | .ok r =>
    Main.writeNew w.files r.files
    (← IO.getStderr).putStr r.stderr
    (← IO.getStdout).putStr r.stdout
    return r.exitCode.toUInt32
