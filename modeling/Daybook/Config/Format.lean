/-
Daybook.Config.Format — settings as a text.

Every key may be left out and then has its standard value; unknown keys are
passed over. The text that is written has all keys, but for those of choices
that were not made, and reading it gives back what was written.
-/
import Daybook.Config.Basic
import Daybook.Toml.Document

namespace Daybook.Config

open Toml (Table Value)

/-! ## Reading -/

def textOf? : Value → Option String
  | .text s => some s
  | _ => none

def booleanOf? : Value → Option Bool
  | .boolean b => some b
  | _ => none

/-- The number of seconds that a value is. -/
def secondsOf? : Value → Option UInt64
  | .integer n => if 0 ≤ n ∧ n < UInt64.size then some (.ofNat n.toNat) else none
  | _ => none

def styleNamed? (name : String) : Option BodyStyle :=
  if name = "sections" then some .sections
  else if name = "template" then some .template
  else none

/-- There is nothing in the value. -/
def isVoid : Value → Bool
  | .table _ [] | .array [] => true
  | _ => false

/-- The style that a value names. A table with the name as its only key will
do as well if there is nothing under it. -/
def styleOf? : Value → Option BodyStyle
  | .text name => styleNamed? name
  | .table _ [(name, v)] => if isVoid v then styleNamed? name else none
  | _ => none

/-- The value that an entry holds, or the standard one if there is no entry. -/
def readEntry {α : Type} (read : Value → Option α) (standard : α) : Option Value → Option α
  | none => some standard
  | some v => read v

/-- The switches that a value holds: a table by their keys, or an array of
truth values in order. A date counts as an empty table. -/
def togglesOf? : Value → Option Toggles
  | .table _ t => do
    let switch (s : Section) := readEntry booleanOf? true (Table.get? t s.key)
    return ⟨← switch .quote, ← switch .morning, ← switch .evening, ← switch .practice⟩
  | .array items => do
    let switch (i : Nat) := readEntry booleanOf? true items[i]?
    return ⟨← switch 0, ← switch 1, ← switch 2, ← switch 3⟩
  | .dateTime => some .allOn
  | _ => none

/-- The choice for a key of a table. -/
def choice {α : Type} (t : Table) (key : String) (read : Value → Option α) (standard : α) :
    Except SettingsFault α :=
  match readEntry read standard (t.get? key) with
  | some a => .ok a
  | none => .error (.wrongValue key)

/-- The choices that a table holds, with standard ones for the rest. -/
def ofTable (standard : Config) (t : Table) : Except SettingsFault Config := do
  return {
    vault := ← choice t "vault_dir" (fun v => (textOf? v).map Path.mk) standard.vault
    rootFolder := ← choice t "root_folder" textOf? standard.rootFolder
    bodyStyle := ← choice t "body_style" styleOf? standard.bodyStyle
    templateFile := ← choice t "template_file" textOf? standard.templateFile
    editor := ← choice t "editor" (fun v => (textOf? v).map some) standard.editor
    refreshSeconds := ← choice t "refresh_interval_secs" secondsOf? standard.refreshSeconds
    libraryFolder := ← choice t "library_dir" (fun v => (textOf? v).map fun s => some ⟨s⟩)
      standard.libraryFolder
    sections := ← choice t "sections" togglesOf? standard.sections
  }

/-- The choices that a text holds, with standard ones for the rest. -/
def parse (standard : Config) (text : String) : Except SettingsFault Config :=
  match Toml.parse? text with
  | some t => ofTable standard t
  | none => .error .notWellFormed

/-! ## Writing -/

def line (key value : String) : String :=
  key ++ " = " ++ value ++ "\n"

/-- A line for a choice that was made. -/
def lineIfAny (key : String) : Option String → String
  | some text => line key (Toml.writtenText text)
  | none => ""

def booleanText (value : Bool) : String :=
  if value then "true" else "false"

def sectionLines (toggles : Toggles) : String :=
  String.join (Section.all.map fun s => line s.key (booleanText (toggles.get s)))

def write (config : Config) : String :=
  line "vault_dir" (Toml.writtenText config.vault.text) ++
    line "root_folder" (Toml.writtenText config.rootFolder) ++
    line "body_style" (Toml.writtenText config.bodyStyle.name) ++
    line "template_file" (Toml.writtenText config.templateFile) ++
    lineIfAny "editor" config.editor ++
    line "refresh_interval_secs" (toString config.refreshSeconds.toNat) ++
    lineIfAny "library_dir" (config.libraryFolder.map Path.text) ++
    "\n[sections]\n" ++ sectionLines config.sections

end Daybook.Config
