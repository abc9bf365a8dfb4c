/-
Daybook.Command.Invocation — what the words of a command line ask for.

The words are read from left to right. A word is the name of a command, one
of its places, or flags: a long one behind two hyphens, or letters behind
one. The value of a flag is the next word unless it is joined to the flag;
a word that looks like a flag is no value. Behind `--` every word fills a
place. Some flags are known at every level of commands and may be given once
at each; the one furthest to the right counts.
-/
import Daybook.Path
import Daybook.Text.Number

namespace Daybook.Command

inductive Level where
  | top
  | init
  | today
  | watch
  | config
  | configShow
  | configToggles
  | configSet
  | configStyle
  | configPath
  | template
  | templateShow
  | templateInit
  | templateEdit
  | templateTokens
  | templateRender
deriving DecidableEq, Repr

inductive Flag where
  | config
  | verbose
  | version
  | help
  | vault
  | rootFolder
  | date
  | interval
  | noOpen
deriving DecidableEq, Repr

/-- Why the words ask for no command. -/
inductive Stop where
  | usage
  | version
  | help
deriving DecidableEq, Repr

namespace Level

/-- The commands in a group, by name. -/
def commands : Level → List (String × Level)
  | top => [("init", init), ("today", today), ("t", today), ("watch", watch), ("config", config),
      ("template", template)]
  | config => [("show", configShow), ("toggles", configToggles), ("set", configSet),
      ("style", configStyle), ("path", configPath)]
  | template => [("show", templateShow), ("init", templateInit), ("edit", templateEdit),
      ("tokens", templateTokens), ("render", templateRender)]
  | _ => []

def flags (level : Level) : List Flag :=
  [.config, .verbose, .help] ++
    match level with
    | top => [.version]
    | init => [.vault, .rootFolder]
    | today => [.date, .noOpen]
    | watch => [.interval, .noOpen]
    | templateRender => [.date]
    | _ => []

/-- The most places that a command has. -/
def places : Level → Nat
  | configSet => 2
  | configStyle => 1
  | _ => 0

end Level

/-- The whole number that a word is, if a word of 64 bits can hold it. -/
def wholeNumber? (word : String) : Option UInt64 :=
  let digits := match word.toList with
    | '+' :: rest => rest
    | cs => cs
  if digits.isEmpty || !digits.all Char.isDigit then none
  else
    let n := Text.valueOfDigits digits
    if n < UInt64.size then some (.ofNat n) else none

namespace Flag

def word : Flag → String
  | config => "config"
  | verbose => "verbose"
  | version => "version"
  | help => "help"
  | vault => "vault"
  | rootFolder => "root-folder"
  | date => "date"
  | interval => "interval"
  | noOpen => "no-open"

def letter? : Flag → Option Char
  | config => some 'c'
  | verbose => some 'v'
  | version => some 'V'
  | help => some 'h'
  | date => some 'd'
  | interval => some 'i'
  | vault | rootFolder | noOpen => none

/-- The flag has a value. -/
def takesValue : Flag → Bool
  | config | vault | rootFolder | date | interval => true
  | verbose | version | help | noOpen => false

/-- The value will do. A path is not empty. -/
def accepts (flag : Flag) (value : String) : Bool :=
  match flag with
  | config | vault => !value.isEmpty
  | interval => (wholeNumber? value).isSome
  | _ => true

end Flag

/-- A flag as it was given, with the level of commands at which it was. -/
structure Given where
  level : Level
  flag : Flag
  value : String
deriving DecidableEq, Repr

/-- What the words so far have come to. -/
structure Found where
  level : Level
  given : List Given
  places : List String
deriving DecidableEq, Repr

namespace Found

def start : Found := ⟨.top, [], []⟩

/-- Takes note of a flag. -/
def add (found : Found) (flag : Flag) (value : String) : Except Stop Found :=
  match flag with
  | .version => .error .version
  | .help => .error .help
  | .verbose => .ok found
  | flag =>
    if found.given.any (fun g => g.level == found.level && g.flag == flag) then .error .usage
    else if !flag.accepts value then .error .usage
    else .ok { found with given := found.given ++ [⟨found.level, flag, value⟩] }

/-- Takes note of a word that fills a place. -/
def addPlace (found : Found) (word : String) : Except Stop Found :=
  if found.places.length < found.level.places then
    .ok { found with places := found.places ++ [word] }
  else .error .usage

/-- The word is a flag and not a value. A lone hyphen is a value. -/
def isFlag (word : String) : Bool :=
  match word.toList with
  | '-' :: _ :: _ => true
  | _ => false

/-- Reads letters that are flags. The last one may still lack its value. -/
def addLetters (found : Found) : List Char → Except Stop (Found × Option Flag)
  | [] => .ok (found, none)
  | c :: rest =>
    match found.level.flags.find? fun flag => flag.letter? == some c with
    | none => .error .usage
    | some flag =>
      if !flag.takesValue then
        match found.add flag "" with
        | .ok found => addLetters found rest
        | .error stop => .error stop
      else
        match rest with
        | [] => .ok (found, some flag)
        | '=' :: value => (found.add flag (.ofList value)).map (·, none)
        | value => (found.add flag (.ofList value)).map (·, none)

/-- Reads a long flag. It may still lack its value. -/
def addLong (found : Found) (cs : List Char) : Except Stop (Found × Option Flag) :=
  let name := String.ofList (cs.takeWhile (· != '='))
  match found.level.flags.find? fun flag => flag.word == name, cs.dropWhile (· != '=') with
  | none, _ => .error .usage
  | some flag, [] =>
    if flag.takesValue then .ok (found, some flag) else (found.add flag "").map (·, none)
  | some flag, _ :: value =>
    if flag.takesValue then (found.add flag (.ofList value)).map (·, none) else .error .usage

/-- Takes note of a command's name, or else of a place. -/
def addWord (found : Found) (word : String) : Except Stop Found :=
  match found.level.commands.lookup word with
  | some level => .ok { found with level }
  | none =>
    if word = "help" && !found.level.commands.isEmpty then .error .help
    else found.addPlace word

/-- Takes note of one word. The reply may be a flag that lacks its value. -/
def addAny (found : Found) (word : String) : Except Stop (Found × Option Flag) :=
  match word.toList with
  | '-' :: '-' :: cs => found.addLong cs
  | '-' :: c :: cs => found.addLetters (c :: cs)
  | _ => (found.addWord word).map (·, none)

/-- Reads words. `lacking` is a flag before them that lacks its value. -/
def read (found : Found) (lacking : Option Flag) : List String → Except Stop Found
  | [] =>
    match lacking with
    | none => .ok found
    | some _ => .error .usage
  | word :: rest =>
    match lacking with
    | some flag =>
      if isFlag word then .error .usage
      else do read (← found.add flag word) none rest
    | none =>
      if word = "--" then rest.foldlM addPlace found
      else do
        let (found, lacking) ← found.addAny word
        read found lacking rest

def value? (found : Found) (flag : Flag) : Option String :=
  ((found.given.filter (·.flag == flag)).getLast?).map (·.value)

end Found

/-- A task that ends by itself. -/
inductive Task where
  | init (vault : Option Path) (rootFolder : Option String)
  | today (date : Option String) (noOpen : Bool)
  | showConfig
  | showToggles
  | setToggle (name value : String)
  | showStyle
  | setStyle (name : String)
  | showConfigPath
  | showTemplate
  | initTemplate
  | editTemplate
  | showTokens
  | renderTemplate (date : Option String)
deriving DecidableEq, Repr

/-- What the user asks for: a task, or to keep the notes present. -/
inductive Request where
  | task (task : Task)
  | watch (interval : Option UInt64) (noOpen : Bool)
deriving DecidableEq, Repr

/-- A request, and the settings file if the user names one. -/
structure Invocation where
  config : Option Path
  request : Request
deriving DecidableEq, Repr

/-- The task of a command, if it is one and lacks nothing. -/
def Found.task? (found : Found) : Option Task :=
  match found.level, found.places with
  | .init, _ => some (.init ((found.value? .vault).map Path.mk) (found.value? .rootFolder))
  | .today, _ => some (.today (found.value? .date) (found.value? .noOpen).isSome)
  | .config, _ | .configShow, _ => some .showConfig
  | .configToggles, _ => some .showToggles
  | .configSet, [name, value] => some (.setToggle name value)
  | .configStyle, [] => some .showStyle
  | .configStyle, [name] => some (.setStyle name)
  | .configPath, _ => some .showConfigPath
  | .templateShow, _ => some .showTemplate
  | .templateInit, _ => some .initTemplate
  | .templateEdit, _ => some .editTemplate
  | .templateTokens, _ => some .showTokens
  | .templateRender, _ => some (.renderTemplate (found.value? .date))
  | _, _ => none

/-- The request of a command, unless it lacks something. -/
def Found.request? (found : Found) : Option Request :=
  match found.level with
  | .watch =>
    some (.watch ((found.value? .interval).bind wholeNumber?) (found.value? .noOpen).isSome)
  | _ => found.task?.map .task

/-- What the words of a command line ask for. -/
def Invocation.parse (words : List String) : Except Stop Invocation :=
  match Found.start.read none words with
  | .error stop => .error stop
  | .ok found =>
    match found.request? with
    | some request => .ok ⟨(found.value? .config).map Path.mk, request⟩
    | none => .error .usage

example : (Invocation.parse ["-vc", "a", "t", "-d=x", "--no-open", "--config=b"]).toOption =
    some ⟨some ⟨"b"⟩, .task (.today (some "x") true)⟩ := by
  decide +kernel

example : (Invocation.parse ["config", "set", "quote"]).toOption = none := by decide +kernel

end Daybook.Command
