/-
Daybook.Storage.Memory — a storage held in memory.

Folders are kept apart from files, so that a file cannot be written into a
folder that was never made. Paths are compared by their components; a path
keeps the spelling in which it was first stored. Every folder is stored
together with the folders above it.
-/
import Daybook.Storage.Query

namespace Daybook.Storage

/-- A storage held in memory. -/
structure Memory where
  files : List (Path × String)
  folders : List Path
deriving DecidableEq, Repr

namespace Memory

def empty : Memory := ⟨[], []⟩

/-! ## Looking -/

/-- The text of the file at a path. -/
def textAt? (m : Memory) (path : Path) : Option String :=
  (m.files.find? fun file => file.1.same path).map (·.2)

def hasFile (m : Memory) (path : Path) : Bool :=
  m.files.any fun file => file.1.same path

def hasFolder (m : Memory) (path : Path) : Bool :=
  m.folders.any fun folder => folder.same path

/-- There is a file or folder at the path. -/
def has (m : Memory) (path : Path) : Bool :=
  m.hasFile path || m.hasFolder path

/-- The folder that a file at the path would lie in is there. The place
where relative paths start needs no folder. -/
def hasParent (m : Memory) (path : Path) : Bool :=
  match path.parent? with
  | some parent => parent.isEmpty || m.hasFolder parent
  | none => true

/-- A path lies directly in a folder. -/
def liesIn (folder path : Path) : Bool :=
  match path.parent? with
  | some parent => parent.same folder
  | none => false

/-- The folders and then the files that lie directly in a folder. -/
def entries (m : Memory) (folder : Path) : List Path :=
  m.folders.filter (liesIn folder) ++ (m.files.map (·.1)).filter (liesIn folder)

/-- The number of components of the longest path. -/
def depth (m : Memory) : Nat :=
  ((m.folders ++ m.files.map (·.1)).map fun path => path.components.length).foldl max 0

/-! ## Changing -/

/-- The files with a text put at a path. A file that is there keeps its place
and the spelling of its path. -/
def putIn (path : Path) (text : String) : List (Path × String) → List (Path × String)
  | [] => [(path, text)]
  | file :: more =>
    if file.1.same path then (file.1, text) :: more else file :: putIn path text more

/-- The storage with a text put at a path, whatever is there. -/
def put (m : Memory) (path : Path) (text : String) : Memory :=
  { m with files := putIn path text m.files }

/-- The storage with one more folder, if it is not there yet. -/
def addFolder (m : Memory) (folder : Path) : Memory :=
  if m.hasFolder folder then m else { m with folders := m.folders ++ [folder] }

/-- The storage with a folder and all the folders above it. -/
def addFolders (m : Memory) (folder : Path) : Memory :=
  (folder.ancestors.takeWhile fun f => !f.isEmpty).foldl addFolder m

/-- The storage with a file and all the folders above it. -/
def withFile (m : Memory) (path : Path) (text : String) : Memory :=
  let m := match path.parent? with
    | some parent => m.addFolders parent
    | none => m
  m.put path text

/-! ## Answers -/

/-- Writes a file if its folder is there. -/
def write (m : Memory) (path : Path) (text : String) : Except StorageError Unit × Memory :=
  if m.hasParent path then (.ok (), m.put path text) else (.error (.noParent path), m)

/-- Creates a file if nothing is at its path and its folder is there. -/
def create (m : Memory) (path : Path) (text : String) : Except StorageError Unit × Memory :=
  if m.has path then (.error (.taken path), m)
  else if m.hasParent path then (.ok (), m.put path text)
  else (.error (.noParent path), m)

/-- Makes a folder and the folders above it, unless a file is at its path. -/
def makeFolders (m : Memory) (path : Path) : Except StorageError Unit × Memory :=
  if m.hasFile path then (.error (.fileInTheWay path), m) else (.ok (), m.addFolders path)

def answer : Backend Memory
  | .isPresent path, m => (m.has path, m)
  | .isFolder path, m => (m.hasFolder path, m)
  | .read path, m =>
    (match m.textAt? path with
      | some text => .ok text
      | none => .error (.noFile path), m)
  | .write path text, m => m.write path text
  | .create path text, m => m.create path text
  | .makeFolders path, m => m.makeFolders path
  | .list path, m => (.ok (m.entries path), m)
  | .depth, m => (m.depth, m)

end Memory

/-- A storage that cannot list its folders: every folder looks empty. -/
def unlisted {σ : Type} (backend : Backend σ) : Backend σ
  | .list _, s => (.ok [], s)
  | q, s => backend q s

end Daybook.Storage
