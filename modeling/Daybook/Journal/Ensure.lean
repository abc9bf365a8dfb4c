/-
Daybook.Journal.Ensure — making sure that a note is there.

`ensure` is the only way in which notes come into a storage. It makes the
folder and the file when they are missing. A note that is there is left
alone, also one that somebody else makes between the look and the deed:
creating a file fails then, and that counts as finding it.
-/
import Daybook.Layout
import Daybook.Storage.Query

namespace Daybook

/-- What making sure of a note came to. -/
inductive Ensured where
  /-- The note was missing and was written. -/
  | created
  /-- The note was there. -/
  | present
deriving DecidableEq, Repr

namespace Journal

open Storage (Try Work)

def ensureFolder (folder : Path) : Try Unit := do
  unless ← Storage.isPresent folder do
    match ← Storage.makeFolders folder with
    | .ok () => return ()
    | .error cause => throw (.createFolder folder cause)

/-- Makes sure that a file is there, with this text if it was missing. -/
def ensureFile (file : Path) (text : String) : Try Ensured := do
  if ← Storage.isPresent file then return .present
  match ← Storage.create file text with
  | .ok () => return .created
  | .error cause =>
    if cause.kind = .alreadyExists then return .present else throw (.fileWrite file cause)

/-- Makes sure that a folder and a file in it are there. -/
def ensure (folder file : Path) (text : String) : Try Ensured := do
  ensureFolder folder
  ensureFile file text

def ensureAt (location : Location) (text : String) : Try Ensured :=
  ensure location.folder location.file text

/-- The note at a path, looked for below a folder. It has the spelling under
which the storage lists it. -/
def findNote (root path : Path) : Work (Option Path) := do
  return (← Storage.walk root).find? fun found => found.same path

end Journal

end Daybook
