/-
Daybook.Error — everything that can go wrong, and how it is told to the user.

Each cause is a constructor with the facts of the case; `JournalError.message`
is the only place with the wording.
-/
import Daybook.Storage.Error

namespace Daybook

/-- The two lists of a library. -/
inductive Shelf where
  | quotes
  | practices
deriving DecidableEq, Repr

def Shelf.name : Shelf → String
  | quotes => "quotes"
  | practices => "practices"

/-- Why a text is no settings file. -/
inductive SettingsFault where
  /-- The text does not follow the grammar of the format, or defines a key twice. -/
  | notWellFormed
  /-- A key has a value of the wrong type. -/
  | wrongValue (key : String)
deriving DecidableEq, Repr

inductive JournalError where
  /-- A storage failed in a way that has no message of its own. -/
  | storage (cause : StorageError)
  | fileRead (path : Path) (cause : StorageError)
  | fileWrite (path : Path) (cause : StorageError)
  | createFolder (path : Path) (cause : StorageError)
  /-- A note that was just made sure of is not found again. -/
  | noteNotFound (path : Path)
  /-- A template opens a token at a byte and never closes it. -/
  | unterminated (offset : Nat) (token : String)
  /-- There is nothing in a list to pick from. -/
  | emptyLibrary (shelf : Shelf)
  /-- A file does not hold a list of the library. -/
  | libraryParse (path : Path)
  | invalidDate (text : String)
  /-- A text is no settings file. -/
  | settingsParse (fault : SettingsFault)
  /-- The settings cannot be written as a text. -/
  | settingsWrite
  /-- The user has no folder for settings. -/
  | noSettingsFolder
  | unknownToggle (text : String)
  | unknownBodyStyle (text : String)
  | noEditor
  | editorLaunch (editor : String) (cause : StorageError)
  | editorExit (code : Int)
deriving DecidableEq, Repr

namespace JournalError

def faultMessage : SettingsFault → String
  | .notWellFormed => "the text is not well-formed"
  | .wrongValue key => "the value of " ++ key ++ " has the wrong type"

def libraryFault : String := "the text does not hold such a list"

def message : JournalError → String
  | storage cause => "IO error: " ++ cause.message
  | fileRead path cause => "Failed to read file '" ++ path.text ++ "': " ++ cause.message
  | fileWrite path cause => "Failed to write file '" ++ path.text ++ "': " ++ cause.message
  | createFolder path cause => "Failed to create folder '" ++ path.text ++ "': " ++ cause.message
  | noteNotFound path => "Note not found after creation: '" ++ path.text ++ "'"
  | unterminated offset token =>
    "Unterminated template token '%" ++ token ++ "' starting at byte " ++ toString offset
  | emptyLibrary shelf => "No " ++ shelf.name ++ " available to pick from"
  | libraryParse path =>
    "Failed to parse library file '" ++ path.text ++ "': " ++ libraryFault
  | invalidDate text =>
    "Invalid date format: '" ++ text ++
      "'. Try 'today', 'yesterday', 'last friday', '3 days ago', or 'YYYY-MM-DD'"
  | settingsParse fault => "Config parse error: " ++ faultMessage fault
  | settingsWrite => "Config serialize error: the settings cannot be written"
  | noSettingsFolder => "Could not determine config directory"
  | unknownToggle text =>
    "Unknown toggle '" ++ text ++
      "'. Expected one of: show_quote, show_morning_note, show_evening_note, show_practice"
  | unknownBodyStyle text =>
    "Unknown body style '" ++ text ++ "'. Expected 'sections' or 'template'"
  | noEditor => "No editor found. Set $EDITOR, $VISUAL, or configure editor in config file"
  | editorLaunch editor cause =>
    "Failed to launch editor '" ++ editor ++ "': " ++ cause.message
  | editorExit code => "Editor exited with code " ++ toString code

end JournalError

end Daybook
