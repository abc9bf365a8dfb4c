/-
Daybook.Storage.Tree — the file tree of an operating system.

Every file and folder has a *place*, the names that lead to it from the
root. A path is followed name by name: each but the last must lead into a
folder, a dot stays, two dots go up. There are no links, and the user may do
anything. The answers are those of the POSIX calls behind each request.
-/
import Daybook.Storage.Query
import Daybook.Text.Bytes

namespace Daybook.Storage

/-- The names that lead from the root to a file or folder. -/
abbrev Place := List String

/-- A file, which may be a program, or a folder. -/
inductive Entry where
  | file (text : String) (isProgram : Bool)
  | folder
deriving DecidableEq, Repr

/-- A file tree, and the folder in which relative paths start. -/
structure Tree where
  entries : List (Place × Entry)
  start : Place
deriving DecidableEq, Repr

/-- Where a path leads. -/
inductive Target where
  /-- To something that is there. -/
  | found (place : Place) (entry : Entry)
  /-- To a place where nothing is, in a folder that is there. -/
  | vacant (place : Place)
deriving DecidableEq, Repr

namespace Tree

/-- The most bytes that a name can have. -/
def nameLimit : Nat := 255

/-- A path of this many bytes or more is too long. -/
def pathLimit : Nat := 4096

/-! ## Looking -/

/-- What is at a place. The root is a folder and needs no entry. -/
def at? (t : Tree) (place : Place) : Option Entry :=
  if place = [] then some .folder else (t.entries.find? fun e => e.1 == place).map (·.2)

/-- The names between the slashes of a path. -/
def namesOf (path : Path) : List String :=
  ((Text.pieces '/' path.text.toList).filter (· ≠ [])).map .ofList

/-- The place that a name leads to from a place. -/
def step (place : Place) (name : String) : Place :=
  if name = "." then place
  else if name = ".." then place.dropLast
  else place ++ [name]

/-- Follows names from a place. -/
def follow (t : Tree) (place : Place) : List String → Except SystemCause Target
  | [] =>
    match t.at? place with
    | some entry => .ok (.found place entry)
    | none => .error .noSuchEntry
  | name :: more =>
    match t.at? place with
    | none => .error .noSuchEntry
    | some (.file ..) => .error .notAFolder
    | some .folder =>
      if nameLimit < name.utf8ByteSize then .error .nameTooLong
      else
        let next := step place name
        match t.at? next, more with
        | none, [] => .ok (.vacant next)
        | none, _ :: _ => .error .noSuchEntry
        | some _, more => t.follow next more

/-- Follows names that a path gives. -/
def followIn (t : Tree) (path : Path) (names : List String) : Except StorageError Target :=
  if path.text.toList.contains '\x00' then .error .badCharacter
  else if path.isEmpty then .error (.system .noSuchEntry)
  else if pathLimit ≤ path.text.utf8ByteSize then .error (.system .nameTooLong)
  else
    match t.follow (if path.isAbsolute then [] else t.start) names with
    | .ok target => .ok target
    | .error cause => .error (.system cause)

/-- Follows a path, whatever it ends with. -/
def locate (t : Tree) (path : Path) : Except StorageError Target :=
  t.followIn path (namesOf path)

/-- The path ends with a slash. -/
def endsWithSlash (path : Path) : Bool :=
  path.text.toList.getLast? == some '/'

/-- What a path leads to. A path that ends with a slash leads to folders only. -/
def look (t : Tree) (path : Path) : Except StorageError (Place × Entry) :=
  match t.locate path with
  | .error e => .error e
  | .ok (.vacant _) => .error (.system .noSuchEntry)
  | .ok (.found place .folder) => .ok (place, .folder)
  | .ok (.found place entry) =>
    if endsWithSlash path then .error (.system .notAFolder) else .ok (place, entry)

def isPresent (t : Tree) (path : Path) : Bool :=
  match t.look path with
  | .ok _ => true
  | .error _ => false

def isFolder (t : Tree) (path : Path) : Bool :=
  match t.look path with
  | .ok (_, .folder) => true
  | _ => false

def read (t : Tree) (path : Path) : Except StorageError String :=
  match t.look path with
  | .ok (_, .file text _) => .ok text
  | .ok (_, .folder) => .error (.system .isAFolder)
  | .error e => .error e

/-- The names directly in a folder. -/
def namesIn (t : Tree) (place : Place) : List String :=
  t.entries.filterMap fun e =>
    if e.1.dropLast = place then e.1.getLast? else none

/-- The paths of what is directly in the folder that a path leads to. -/
def list (t : Tree) (path : Path) : List Path :=
  match t.look path with
  | .ok (place, .folder) => (t.namesIn place).map path.join
  | _ => []

def depth (t : Tree) : Nat :=
  (t.entries.map fun e => e.1.length).foldl max 0

/-! ## Changing -/

/-- Entries with an entry put at a place. -/
def putIn (place : Place) (entry : Entry) : List (Place × Entry) → List (Place × Entry)
  | [] => [(place, entry)]
  | e :: more => if e.1 = place then (place, entry) :: more else e :: putIn place entry more

def put (t : Tree) (place : Place) (entry : Entry) : Tree :=
  { t with entries := putIn place entry t.entries }

/-- The path asks for a folder by its last character and not by its last name,
so that no file can be made at it. -/
def namesFolderBySlash (path : Path) : Bool :=
  endsWithSlash path &&
    (match (namesOf path).getLast? with
      | some name => name != "." && name != ".."
      | none => false)

/-- Follows a path at which a file may be made. One that asks for a folder is
followed up to its last name only, and then turned away. -/
def locateForFile (t : Tree) (path : Path) : Except StorageError Target :=
  if namesFolderBySlash path then
    match t.followIn path ((namesOf path).dropLast ++ ["."]) with
    | .error e => .error e
    | .ok _ => .error (.system .isAFolder)
  else t.locate path

/-- Puts a text into a file, which is made if need be. -/
def write (t : Tree) (path : Path) (text : String) : Except StorageError Unit × Tree :=
  match t.locateForFile path with
  | .error e => (.error e, t)
  | .ok (.vacant place) => (.ok (), t.put place (.file text false))
  | .ok (.found place (.file _ isProgram)) => (.ok (), t.put place (.file text isProgram))
  | .ok (.found _ .folder) => (.error (.system .isAFolder), t)

/-- Makes a file with a text where nothing is. -/
def create (t : Tree) (path : Path) (text : String) : Except StorageError Unit × Tree :=
  match t.locateForFile path with
  | .error e => (.error e, t)
  | .ok (.vacant place) => (.ok (), t.put place (.file text false))
  | .ok (.found _ _) => (.error (.system .entryExists), t)

/-- Makes one folder where nothing is. -/
def makeFolder (t : Tree) (path : Path) : Except StorageError Unit × Tree :=
  match t.locate path with
  | .error e => (.error e, t)
  | .ok (.vacant place) => (.ok (), t.put place .folder)
  | .ok (.found _ _) => (.error (.system .entryExists), t)

/-- The outcome of making a folder when it is enough that there is one. -/
def orPresent (t : Tree) (path : Path) (e : StorageError) : Except StorageError Unit × Tree :=
  if t.isFolder path then (.ok (), t) else (.error e, t)

/-- Makes the first folder of a row in which each lies in the next, and as
many of the others as it takes. -/
def makeRow (t : Tree) : List Path → Except StorageError Unit × Tree
  | [] => (.error (.reported "failed to create whole tree"), t)
  | path :: above =>
    if path.isEmpty then (.ok (), t)
    else match t.makeFolder path with
      | (.ok (), t) => (.ok (), t)
      | (.error e, _) =>
        if e.kind = .notFound then
          match t.makeRow above with
          | (.ok (), t) =>
            match t.makeFolder path with
            | (.ok (), t) => (.ok (), t)
            | (.error e, _) => t.orPresent path e
          | (.error e, t) => (.error e, t)
        else t.orPresent path e

/-- Makes a folder and the folders above it. -/
def makeFolders (t : Tree) (path : Path) : Except StorageError Unit × Tree :=
  t.makeRow path.ancestors

/-! ## Answers -/

def answer : Backend Tree
  | .isPresent path, t => (t.isPresent path, t)
  | .isFolder path, t => (t.isFolder path, t)
  | .read path, t => (t.read path, t)
  | .write path text, t => t.write path text
  | .create path text, t => t.create path text
  | .makeFolders path, t => t.makeFolders path
  | .list path, t => (.ok (t.list path), t)
  | .depth, t => (t.depth, t)

/-- The tree that holds nothing but a folder to start in. -/
def emptyAt (start : Place) : Tree :=
  ⟨(List.range start.length).map fun n => (start.take (n + 1), .folder), start⟩

end Tree

end Daybook.Storage
