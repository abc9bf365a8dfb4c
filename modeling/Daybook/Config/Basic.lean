/-
Daybook.Config.Basic — what the user can choose.
-/
import Daybook.Journal.Run
import Daybook.Library.Load
import Daybook.Template.Registry

namespace Daybook

/-- The user's choices. -/
structure Config where
  /-- The folder in which the notes' root folder is. -/
  vault : Path
  /-- The root folder of the notes, inside the vault. -/
  rootFolder : String
  bodyStyle : BodyStyle
  /-- The template file, inside the root folder. -/
  templateFile : String
  editor : Option String
  /-- The seconds from one look at the clock to the next. -/
  refreshSeconds : UInt64
  /-- A folder with lists in place of the bundled ones. -/
  libraryFolder : Option Path
  sections : Toggles
deriving DecidableEq, Repr

namespace Config

/-- The choices for a vault when nothing else is chosen. -/
def forVault (vault : Path) : Config where
  vault
  rootFolder := "stoic-daily"
  bodyStyle := .sections
  templateFile := Layout.defaultTemplateFile
  editor := none
  refreshSeconds := 60
  libraryFolder := none
  sections := .allOn

/-- The choices of a user with this home folder when nothing is chosen. -/
def standard (home : Path) : Config :=
  .forVault (home.join "notes")

/-- The file that holds the choices unless the user names another. The folder
of all settings is only taken if it is absolute. -/
def standardPath (home : Path) (settingsFolder : Option String) : Path :=
  let folder : Path :=
    match settingsFolder with
    | some folder => if (Path.mk folder).isAbsolute then ⟨folder⟩ else home.join ".config"
    | none => home.join ".config"
  (folder.join "stoic-daily").join "config.toml"

/-- The two choices are the same, with paths compared as places. -/
def same (a b : Config) : Bool :=
  let samePath (p q : Option Path) : Bool :=
    match p, q with
    | none, none => true
    | some p, some q => p.same q
    | _, _ => false
  a.vault.same b.vault && a.rootFolder == b.rootFolder && a.bodyStyle == b.bodyStyle &&
    a.templateFile == b.templateFile && a.editor == b.editor &&
    a.refreshSeconds == b.refreshSeconds && samePath a.libraryFolder b.libraryFolder &&
    a.sections == b.sections

/-- The root folder of the notes. It is always below the vault. -/
def root (config : Config) : Path :=
  config.vault.joinBelow config.rootFolder

def layout (config : Config) : Layout :=
  ⟨config.root, config.templateFile⟩

/-- The seconds between two ticks. There is at least one. -/
def tickSeconds (config : Config) : Nat :=
  max config.refreshSeconds.toNat 1

/-- The choices after the user turned a section on or off. -/
def setToggle (config : Config) (typed : String) (value : Bool) :
    Except JournalError (Section × Config) :=
  match config.sections.setNamed typed value with
  | .ok (s, sections) => .ok (s, { config with sections })
  | .error e => .error e

def builder (config : Config) : BodyBuilder :=
  match config.bodyStyle with
  | .sections => .sections config.sections
  | .template => .template .builtin

def journal (config : Config) : Storage.Try Journal := do
  let library ← Library.loadChosen config.libraryFolder
  return ⟨config.layout, library, config.builder⟩

end Config

end Daybook
