/-
Daybook.Storage.Faults — a storage that refuses some requests.

A refused request changes nothing. A blind storage sees nothing anywhere,
and a listing can leave out paths; everything else goes through to the
storage behind.
-/
import Daybook.Storage.Query

namespace Daybook.Storage

/-- What a storage refuses or hides. -/
structure Faults where
  /-- No folder can be made. -/
  folders : Bool
  /-- No file can be written or created. -/
  writes : Bool
  /-- No file can be read. -/
  reads : Bool
  /-- No folder can be listed. -/
  lists : Bool
  /-- Nothing is seen to be present. -/
  blind : Bool
  /-- Paths left out of listings. -/
  hidden : List Path
deriving DecidableEq, Repr

namespace Faults

def none : Faults := ⟨false, false, false, false, false, []⟩

def hides (faults : Faults) (path : Path) : Bool :=
  faults.hidden.any fun h => h.same path

def answer {σ : Type} (faults : Faults) (backend : Backend σ) : Backend σ
  | .isPresent path, s => if faults.blind then (false, s) else backend (.isPresent path) s
  | .read path, s =>
    if faults.reads then (.error .denied, s) else backend (.read path) s
  | .write path text, s =>
    if faults.writes then (.error .denied, s) else backend (.write path text) s
  | .create path text, s =>
    if faults.writes then (.error .denied, s) else backend (.create path text) s
  | .makeFolders path, s =>
    if faults.folders then (.error .denied, s) else backend (.makeFolders path) s
  | .list path, s =>
    if faults.lists then (.error .denied, s)
    else
      let (found, s) := backend (.list path) s
      (found.map fun entries => entries.filter fun entry => !faults.hides entry, s)
  | .isFolder path, s => backend (.isFolder path) s
  | .depth, s => backend .depth s

end Faults

end Daybook.Storage
