/-
Daybook.Command.Template — the commands about the user's template.
-/
import Daybook.Calendar.Phrase.Meaning
import Daybook.Command.Config
import Daybook.Command.Viewer

namespace Daybook.Command

open Calendar (Date Day)

/-- The date that a user types, or today's when nothing was typed. -/
def chosenDate (typed : Option String) : Work (Except JournalError Date) := do
  let now ← now
  match typed with
  | none => return .ok now.date
  | some text => return Date.parse now text

def showTemplate (config : Config) : Work Bool := do
  let path := config.layout.templatePath
  match ← tryOnStorage (BodyBuilder.readTemplate path) with
  | .ok (some text) =>
    print ("Template: " ++ path.text ++ "\n")
    print text
    return true
  | .ok none =>
    print ("Template: (built-in, " ++ path.text ++ " does not exist)\n")
    print Template.defaultDay
    return true
  | .error e => fail e.message

/-- Makes the template file, unless it is there. -/
def initTemplate (config : Config) : Work Bool := do
  let path := config.layout.templatePath
  if ← onStorage (Storage.isPresent path) then
    print ("Template already exists: " ++ path.text)
    return true
  if let some folder := path.parent? then
    if let .error cause ← onStorage (Storage.makeFolders folder) then
      return ← fail ("Error creating folder '" ++ folder.text ++ "': " ++ cause.message)
  match ← onStorage (Storage.create path Template.defaultDay) with
  | .ok () =>
    print ("✓ Created template: " ++ path.text)
    print "  Set 'stoic-daily config style template' to use it."
    return true
  | .error cause => fail ("Error creating template '" ++ path.text ++ "': " ++ cause.message)

/-- Opens the template file in the user's editor. It is made if it is missing. -/
def editTemplate (config : Config) : Work Bool := do
  if ← initTemplate config then
    match ← edit config.editor config.layout.templatePath with
    | .ok () => return true
    | .error e => fail ("Error launching editor: " ++ e.message)
  else return false

def showTokens : Work Bool := do
  print "Available template tokens:\n"
  for token in Template.Registry.builtin.tokens do
    print ("  %" ++ token.name ++ "%")
    print ("    " ++ token.description)
  print ""
  print "Unknown tokens expand to nothing."
  return true

/-- Expands the template for a day, by chance from some source, and says which
of its tokens are unknown. -/
def expandFor (config : Config) (library : Library) (day : Day) (chance : Work Selector) :
    Work (Except JournalError String) := do
  match ← tryOnStorage (BodyBuilder.loadTemplate config.layout) with
  | .error e => return .error e
  | .ok (source, warnings) =>
    warnAll warnings
    match Template.Registry.builtin.unknownTokens source with
    | .error e => return .error e
    | .ok unknown =>
      for name in unknown do
        complain ("⚠ Unknown token %" ++ name ++ "% will be left empty")
      let found := Template.Registry.builtin.render ⟨day, library⟩ source (← chance)
      warnAll found.warnings
      return found.outcome

/-- What the template comes to on a day, with the user's library. -/
def preview (config : Config) (day : Day) (chance : Work Selector) :
    Work (Except JournalError String) := do
  match ← tryOnStorage (Library.loadChosen config.libraryFolder) with
  | .error e => return .error e
  | .ok library => expandFor config library day chance

/-- Shows what the template comes to on a day. Nothing is written. -/
def renderTemplate (typed : Option String) (config : Config) : Work Bool := do
  match ← chosenDate typed with
  | .error e => fail e.message
  | .ok date =>
    match ← preview config date.toDay freshSelector with
    | .error e => fail e.message
    | .ok text =>
      print text
      return true

end Daybook.Command
