/-
Daybook.Command.Viewer — how a command shows notes.

The editor is the one of the settings, or else the one that the environment
names, or else the first usual one that the machine has.
-/
import Daybook.Command.Work

namespace Daybook.Command

/-- The editors that are looked for when the user names none. -/
def usualEditors : List String := ["vim", "vi", "nano"]

/-- The first program that the machine has. -/
def firstKnown : List String → Work (Option String)
  | [] => return none
  | program :: more => do
    if ← probe "which" program then return some program else firstKnown more

/-- The editor to use, where the settings may name one. -/
def chooseEditor (configured : Option String) : Work (Option String) := do
  if let some editor := configured then return some editor
  if let some editor ← fromEnvironment "EDITOR" then return some editor
  if let some editor ← fromEnvironment "VISUAL" then return some editor
  firstKnown usualEditors

def runEditor (editor : String) (path : Path) : Work (Except JournalError Unit) := do
  match ← launch editor path.text with
  | .error cause => return .error (.editorLaunch editor cause)
  | .ok code => return if code = 0 then .ok () else .error (.editorExit code)

def edit (configured : Option String) (path : Path) : Work (Except JournalError Unit) := do
  match ← chooseEditor configured with
  | some editor => runEditor editor path
  | none => return .error .noEditor

/-- The ways of showing a note. -/
inductive Viewer where
  /-- The path is printed. -/
  | printing
  /-- The user's editor is started. -/
  | editor (configured : Option String)
  /-- The note is announced, for as long as the terminal is being read. -/
  | announcing
deriving DecidableEq, Repr

def Viewer.host : Viewer → Host
  | printing, path => do
    print path.text
    return .ok ()
  | editor configured, path => do
    print ("Opening: " ++ path.text)
    edit configured path
  | announcing, path => do
    print ("New day: " ++ path.text ++ " is ready. Press Enter to open it.")
    return .ok ()

/-- The viewer for a choice of settings, unless the user wants none opened. -/
def Viewer.choose (configured : Option String) (noOpen : Bool) : Viewer :=
  if noOpen then .printing else .editor configured

end Daybook.Command
