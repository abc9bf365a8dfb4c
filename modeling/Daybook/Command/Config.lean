/-
Daybook.Command.Config — the commands about settings.

A setting is saved as soon as it changes, and only then.
-/
import Daybook.Command.Work
import Daybook.Config.File

namespace Daybook.Command

/-! ## The settings of the user -/

def home : Work Path := do
  return ⟨(← fromEnvironment "HOME").getD "/"⟩

def standardConfig : Work Config := do
  return .standard (← home)

/-- The settings file: the one that the user names, or the standard one. -/
def configPath : Option Path → Work Path
  | some path => return path
  | none => do return Config.standardPath (← home) (← fromEnvironment "XDG_CONFIG_HOME")

def loadConfig (chosen : Option Path) : Work (Option Config) := do
  match ← tryOnStorage (Config.loadOrStandard (← standardConfig) (← configPath chosen)) with
  | .ok config => return some config
  | .error e =>
    complain ("✗ Error loading config: " ++ e.message)
    complain "  Fix the file or run 'stoic-daily init'"
    return none

def saveConfig (config : Config) (chosen : Option Path) : Work (Except JournalError Unit) := do
  tryOnStorage (config.save (← configPath chosen))

def withConfig (chosen : Option Path) (act : Config → Work Bool) : Work Bool := do
  match ← loadConfig chosen with
  | some config => act config
  | none => return false

/-! ## The commands -/

/-- Makes the settings file and the root folder of the notes. -/
def init (chosen : Option Path) (vault : Option Path) (rootFolder : Option String) :
    Work Bool := do
  let config ← match vault with
    | some vault => pure (Config.forVault vault)
    | none => standardConfig
  let config : Config := { config with rootFolder := rootFolder.getD config.rootFolder }
  match ← saveConfig config chosen with
  | .error e => fail ("Error initializing config: " ++ e.message)
  | .ok () =>
    match ← onStorage (Storage.makeFolders config.root) with
    | .error cause =>
      fail ("Error creating notes folder '" ++ config.root.text ++ "': " ++ cause.message)
    | .ok () =>
      print "✓ Initialized stoic-daily"
      print ("  Config: " ++ (← configPath chosen).text)
      print ("  Notes folder: " ++ config.root.text)
      print ""
      print "Run 'stoic-daily today' to create today's note."
      return true

/-- The line about a section in the list of switches. -/
def toggleLine (toggles : Toggles) (s : Section) : String :=
  "  [" ++ (if toggles.get s then "✓" else " ") ++ "] " ++ Text.filled 18 s.key ++ " " ++
    s.title ++ " (" ++ s.description ++ ")"

def showToggles (config : Config) : Work Bool := do
  print "Sections:"
  for s in Section.all do
    print (toggleLine config.sections s)
  return true

def showConfig (chosen : Option Path) (config : Config) : Work Bool := do
  print "Stoic Daily Configuration"
  print "========================="
  print ("Vault: " ++ config.vault.text)
  print ("Notes folder: " ++ config.root.text)
  print ("Body style: " ++ config.bodyStyle.name)
  print ("Template: " ++ config.layout.templatePath.text)
  if let some editor := config.editor then print ("Editor: " ++ editor)
  print ("Refresh interval: " ++ toString config.tickSeconds ++ "s")
  match config.libraryFolder with
  | some folder => print ("Library: " ++ folder.text)
  | none => print "Library: (built-in)"
  print ("Config file: " ++ (← configPath chosen).text)
  print ""
  showToggles config

/-- The truth value that a user types. -/
def truthValue? (typed : String) : Option Bool :=
  let word := Text.plain typed
  if word ∈ ["true", "on", "yes", "y", "1"] then some true
  else if word ∈ ["false", "off", "no", "n", "0"] then some false
  else none

/-- Saves changed settings and says what was changed. -/
def saveChange (chosen : Option Path) (config : Config) (lines : List String) : Work Bool := do
  match ← saveConfig config chosen with
  | .error e => fail ("Error saving config: " ++ e.message)
  | .ok () =>
    lines.forM print
    return true

def setToggle (chosen : Option Path) (name typed : String) (config : Config) : Work Bool := do
  match truthValue? typed with
  | none => fail ("Expected true or false, got '" ++ typed ++ "'")
  | some value =>
    match config.setToggle name value with
    | .error e => fail e.message
    | .ok (s, config) =>
      saveChange chosen config ["✓ " ++ s.key ++ " = " ++ (if value then "true" else "false")]

/-- What is said when the style was changed. -/
def styleLines (style : BodyStyle) : List String :=
  ("✓ Body style set to " ++ style.name) ::
    match style with
    | .sections => []
    | .template => ["  Run 'stoic-daily template init' to create a template file."]

def setStyle (chosen : Option Path) (typed : String) (config : Config) : Work Bool := do
  match BodyStyle.parse typed with
  | .error e => fail e.message
  | .ok style => saveChange chosen { config with bodyStyle := style } (styleLines style)

def showConfigPath (chosen : Option Path) : Work Bool := do
  print (← configPath chosen).text
  return true

end Daybook.Command
