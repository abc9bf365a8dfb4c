/-
Daybook.Command.Run — carrying out a command line.

Every command ends by itself, but for the watch, which goes on from event to
event for as long as the surroundings have any for it.
-/
import Daybook.Command.Invocation
import Daybook.Command.Watch

namespace Daybook.Command

/-- What a command line comes to. -/
inductive Outcome where
  /-- The command has ended with an exit code. -/
  | ended (code : Nat)
  /-- A watch has begun. -/
  | watching (watch : Watch)

/-- The exit code of a command that was carried out. -/
def exitCode (succeeded : Bool) : Nat :=
  if succeeded then 0 else 1

/-- The exit code for words that cannot be understood. -/
def usageCode : Nat := 2

def versionText : String := "stoic-daily 0.3.0"

def usageText : String :=
  "Usage: stoic-daily [-c <CONFIG>] [-v] <COMMAND>\n\n" ++
  "  init [--vault <DIR>] [--root-folder <NAME>]\n" ++
  "  today [-d <DATE>] [--no-open]\n" ++
  "  watch [-i <SECONDS>] [--no-open]\n" ++
  "  config [show | toggles | set <TOGGLE> <VALUE> | style [STYLE] | path]\n" ++
  "  template show | init | edit | tokens | render [-d <DATE>]"

def showStyle (config : Config) : Work Bool := do
  print config.bodyStyle.name
  return true

/-- Carries out a task. The reply tells whether it succeeded. -/
def Task.perform (chosen : Option Path) : Task → Work Bool
  | .init vault rootFolder => Command.init chosen vault rootFolder
  | .today date noOpen => withConfig chosen (Command.today date noOpen)
  | .showConfig => withConfig chosen (Command.showConfig chosen)
  | .showToggles => withConfig chosen Command.showToggles
  | .setToggle name value => withConfig chosen (Command.setToggle chosen name value)
  | .showStyle => withConfig chosen Command.showStyle
  | .setStyle name => withConfig chosen (Command.setStyle chosen name)
  | .showConfigPath => Command.showConfigPath chosen
  | .showTemplate => withConfig chosen Command.showTemplate
  | .initTemplate => withConfig chosen Command.initTemplate
  | .editTemplate => withConfig chosen Command.editTemplate
  | .showTokens => withConfig chosen fun _ => Command.showTokens
  | .renderTemplate date => withConfig chosen (Command.renderTemplate date)

def Invocation.perform (invocation : Invocation) : Work Outcome := do
  match invocation.request with
  | .task task => return .ended (exitCode (← task.perform invocation.config))
  | .watch interval noOpen =>
    match ← loadConfig invocation.config with
    | none => return .ended (exitCode false)
    | some config =>
      match ← Watch.start interval noOpen config with
      | some watch => return .watching watch
      | none => return .ended (exitCode false)

def run (words : List String) : Work Outcome := do
  match Invocation.parse words with
  | .ok invocation => invocation.perform
  | .error .version =>
    print versionText
    return .ended 0
  | .error .help =>
    print usageText
    return .ended 0
  | .error .usage =>
    complain usageText
    return .ended usageCode

end Daybook.Command
