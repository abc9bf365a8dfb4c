/-
Daybook.Config.File — settings in a storage.
-/
import Daybook.Config.Format

namespace Daybook.Config

open Storage (Try)

/-- Reads the choices in a file. -/
def load (standard : Config) (path : Path) : Try Config := do
  match ← Storage.read path with
  | .error cause => throw (.fileRead path cause)
  | .ok text =>
    match parse standard text with
    | .ok config => return config
    | .error fault => throw (.settingsParse fault)

/-- Reads the choices in a file if there is one. -/
def loadOrStandard (standard : Config) (path : Path) : Try Config := do
  if ← Storage.isPresent path then load standard path else return standard

/-- Writes the choices into a file, in a folder that is made if it is missing. -/
def save (config : Config) (path : Path) : Try Unit := do
  match path.parent? with
  | some folder =>
    unless folder.isEmpty do
      if let .error cause ← Storage.makeFolders folder then
        throw (.createFolder folder cause)
  | none => pure ()
  if let .error cause ← Storage.write path config.write then
    throw (.fileWrite path cause)

end Daybook.Config
