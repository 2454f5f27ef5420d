import GroupSearch.Files.Path
import GroupSearch.Text.Quoted

namespace GroupSearch

inductive FileNode
  | file (content : ByteArray)
  | folder

def FileNode.decEq : (m n : FileNode) → Decidable (m = n)
  | file a, file b =>
    match a.decEq b with
    | isTrue h => isTrue (h ▸ rfl)
    | isFalse h => isFalse (by simp [h])
  | folder, folder => isTrue rfl
  | file _, folder | folder, file _ => isFalse nofun

instance : DecidableEq FileNode := FileNode.decEq

inductive FileFault
  | missing
  | occupied
  | notFolder
  | isFolder
  | nameTooLong
  | nullCharacter
  deriving DecidableEq, Repr

structure FileError where
  fault : FileFault
  path : Path
  deriving DecidableEq, Repr

def FileFault.phrase : FileFault → String
  | missing => "[Errno 2] No such file or directory"
  | occupied => "[Errno 17] File exists"
  | notFolder => "[Errno 20] Not a directory"
  | isFolder => "[Errno 21] Is a directory"
  | nameTooLong => "[Errno 36] File name too long"
  | nullCharacter => "embedded null byte"

def FileError.message (e : FileError) : String :=
  match e.fault with
  | .nullCharacter => e.fault.phrase
  | f => s!"{f.phrase}: {Text.quoted e.path.toString}"

abbrev Location := List String

structure FileTree where
  nodes : List (Location × FileNode)

namespace FileTree

def empty : FileTree := ⟨[]⟩

/-- The working folder, the root, and the folders above the working folder are always there. -/
def isGround (l : Location) : Bool := l == ["/"] || l.all (· == "..")

def systemFolders : List String :=
  ["bin", "boot", "dev", "etc", "home", "lib", "media", "mnt", "opt", "proc", "root", "run", "sbin",
    "srv", "sys", "tmp", "usr", "var"]

/-- What a system comes with: its folders, and the file that stays empty. -/
def standing? : Location → Option FileNode
  | ["/", name] => if systemFolders.contains name then some .folder else none
  | ["/", "dev", "null"] => some (.file .empty)
  | _ => none

def node? (t : FileTree) (l : Location) : Option FileNode :=
  if isGround l then some .folder else (t.nodes.lookup l).or (standing? l)

def put (t : FileTree) (l : Location) (n : FileNode) : FileTree :=
  ⟨(l, n) :: t.nodes.filter fun e ↦ e.1 != l⟩

def above (l : Location) : Location :=
  if l = ["/"] then l else if l.all (· == "..") then ".." :: l else l.dropLast

def longestName : Nat := 255

def longestPath : Nat := 4095

/-- The location that names lead to from a folder. Every name but the last must be a folder's. -/
def locateFrom (t : FileTree) (here : Location) : List String → Except FileFault Location
  | [] => .ok here
  | ".." :: names => locateFrom t (above here) names
  | name :: names =>
    if longestName < name.utf8ByteSize then .error .nameTooLong
    else
      match t.node? (here ++ [name]) with
      | some .folder => locateFrom t (here ++ [name]) names
      | some (.file _) => if names = [] then .ok (here ++ [name]) else .error .notFolder
      | none => if names = [] then .ok (here ++ [name]) else .error .missing

def start (p : Path) : Location := if p.root = "" then [] else ["/"]

def checkPath (p : Path) : Except FileFault Unit :=
  if p.hasNull then .error .nullCharacter
  else if longestPath < p.toString.utf8ByteSize then .error .nameTooLong
  else .ok ()

def locate (t : FileTree) (p : Path) : Except FileFault Location := do
  checkPath p
  t.locateFrom (start p) p.parts

def isFolder (t : FileTree) (p : Path) : Bool :=
  match t.locate p with
  | .ok l => t.node? l == some .folder
  | .error _ => false

def content (t : FileTree) (p : Path) : Except FileFault ByteArray := do
  match t.node? (← t.locate p) with
  | some (.file bytes) => return bytes
  | some .folder => throw .isFolder
  | none => throw .missing

def read (t : FileTree) (p : Path) : Except FileError ByteArray :=
  (t.content p).mapError (⟨·, p⟩)

def locateFolder (t : FileTree) (p : Path) : Except FileFault Location := do
  let l ← t.locate p
  match t.node? l with
  | some .folder => return l
  | some (.file _) => throw .notFolder
  | none => throw .missing

def makeOne (t : FileTree) (p : Path) : Except FileFault FileTree := do
  checkPath p
  let inside ← t.locateFolder ⟨p.root, p.parts.dropLast⟩
  match p.parts.getLast? with
  | none | some ".." => throw .occupied
  | some name =>
    let l ← t.locateFrom inside [name]
    if (t.node? l).isSome then throw .occupied
    return t.put l .folder

def settle (t : FileTree) (p : Path) (fault : FileFault) : Except FileError Unit × FileTree :=
  (if t.isFolder p then .ok () else .error ⟨fault, p⟩, t)

def makeFolderOf (t : FileTree) (root : String) : List String → Except FileError Unit × FileTree
  | [] => (.ok (), t)
  | name :: names =>
    let p : Path := ⟨root, (name :: names).reverse⟩
    match t.makeOne p with
    | .ok made => (.ok (), made)
    | .error .missing =>
      match makeFolderOf t root names with
      | (.error e, t) => (.error e, t)
      | (.ok (), t) =>
        match t.makeOne p with
        | .ok made => (.ok (), made)
        | .error fault => t.settle p fault
    | .error fault => t.settle p fault

/-- Makes a folder and those above it, as far as they are missing. Folders made on the way to a
failure stay. -/
def makeFolder (t : FileTree) (p : Path) : Except FileError Unit × FileTree :=
  t.makeFolderOf p.root p.parts.reverse

def openLog (t : FileTree) (p : Path) : Except FileError (FileTree × Location) :=
  Except.mapError (⟨·, p⟩) do
    let l ← t.locate p
    match t.node? l with
    | some (.file _) => return (t, l)
    | some .folder => throw .isFolder
    | none => return (t.put l (.file .empty), l)

def append (t : FileTree) (l : Location) (s : String) : FileTree :=
  match t.node? l with
  | some (.file bytes) => t.put l (.file (bytes ++ s.toUTF8))
  | _ => t.put l (.file s.toUTF8)

def place (t : FileTree) (l : Location) (n : FileNode) : FileTree :=
  (((List.range (l.length - 1)).map fun i ↦ l.take (i + 1)).foldl (fun t a ↦ t.put a .folder) t).put
    l n

def remove (t : FileTree) (l : Location) : FileTree :=
  ⟨t.nodes.filter fun e ↦ !l.isPrefixOf e.1⟩

def contents (t : FileTree) : List (Location × ByteArray) :=
  (t.nodes.filterMap fun (l, n) ↦ match n with
    | .file bytes => some (l, bytes)
    | .folder => none).mergeSort fun a b ↦ !decide (b.1 < a.1)

def isInside (l : Location) : Bool := l.head? != some "/" && l.head? != some ".."

def files (t : FileTree) : List (Location × ByteArray) := t.contents.filter fun f ↦ isInside f.1

end FileTree

inductive TextError
  | file (error : FileError)
  | undecodable
  deriving DecidableEq, Repr

def unifyLineEnds : List Char → List Char
  | [] => []
  | '\r' :: '\n' :: cs => '\n' :: unifyLineEnds cs
  | '\r' :: cs => '\n' :: unifyLineEnds cs
  | c :: cs => c :: unifyLineEnds cs

def FileTree.readText (t : FileTree) (p : Path) : Except TextError String := do
  let bytes ← (t.read p).mapError .file
  match String.fromUTF8? bytes with
  | some s => return String.ofList (unifyLineEnds s.toList)
  | none => throw .undecodable

theorem FileTree.readText_of_content {t : FileTree} {path : Path} {bytes : ByteArray}
    (h : t.content path = .ok bytes) :
    t.readText path = match String.fromUTF8? bytes with
      | some s => .ok (String.ofList (unifyLineEnds s.toList))
      | none => .error .undecodable := by
  unfold readText read
  rw [h]
  rfl

end GroupSearch
