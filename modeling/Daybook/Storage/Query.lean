/-
Daybook.Storage.Query — what is asked of a storage.

A storage holds files and folders at paths. Creating is not writing: a file
is created only where nothing is, and a storage must tell the two cases
apart in one step, so that nobody can come between the look and the deed.
-/
import Daybook.Procedure
import Daybook.Error

namespace Daybook.Storage

inductive Query where
  /-- Is there a file or folder? -/
  | isPresent (path : Path)
  /-- Is there a folder? -/
  | isFolder (path : Path)
  /-- The text of a file. -/
  | read (path : Path)
  /-- Put a text into a file, whatever was in it. -/
  | write (path : Path) (text : String)
  /-- Put a text into a file that is not there yet. -/
  | create (path : Path) (text : String)
  /-- Make a folder and the folders above it. -/
  | makeFolders (path : Path)
  /-- The files and folders in a folder, not those further down. -/
  | list (path : Path)
  /-- A bound on the number of folders inside one another. -/
  | depth
deriving DecidableEq, Repr

def Query.Reply : Query → Type
  | isPresent _ | isFolder _ => Bool
  | read _ => Except StorageError String
  | write .. | create .. | makeFolders _ => Except StorageError Unit
  | list _ => Except StorageError (List Path)
  | depth => Nat

def interface : Interface := ⟨Query, Query.Reply⟩

abbrev Work (α : Type) := Procedure interface α

abbrev Try (α : Type) := Attempt interface JournalError α

def isPresent (path : Path) : Work Bool := .ask (.isPresent path) .done

def isFolder (path : Path) : Work Bool := .ask (.isFolder path) .done

def read (path : Path) : Work (Except StorageError String) := .ask (.read path) .done

def write (path : Path) (text : String) : Work (Except StorageError Unit) :=
  .ask (.write path text) .done

def create (path : Path) (text : String) : Work (Except StorageError Unit) :=
  .ask (.create path text) .done

def makeFolders (path : Path) : Work (Except StorageError Unit) := .ask (.makeFolders path) .done

def list (path : Path) : Work (Except StorageError (List Path)) := .ask (.list path) .done

def depth : Work Nat := .ask .depth .done

/-- A storage: how it answers, and what the answer leaves of it. -/
abbrev Backend (σ : Type) := (q : Query) → σ → q.Reply × σ

/-- Everything below a folder, when folders are at most `bound` deep: every
entry, each folder followed by what is below it. A folder that cannot be
listed counts as empty. -/
def walkWithin : Nat → Path → Work (List Path)
  | 0, _ => return []
  | bound + 1, folder => do
    match ← list folder with
    | .error _ => return []
    | .ok entries =>
      let found ← entries.mapM fun entry => do
        if ← isFolder entry then return entry :: (← walkWithin bound entry)
        else return [entry]
      return found.flatten

def walk (folder : Path) : Work (List Path) := do
  walkWithin (← depth) folder

end Daybook.Storage
