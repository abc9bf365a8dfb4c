/-
Daybook.Template.Registry — the tokens that a template can use.

A registry lists its tokens in the order in which their names were first
registered. Registering a name again replaces what the token does and keeps
its place.
-/
import Daybook.Note.Lines
import Daybook.Template.Expand

namespace Daybook.Template

open Calendar (Day)

/-- What the text of a token may depend on, besides chance. -/
structure Context where
  day : Day
  library : Library

/-- A token: its name, what users are told of it, and its text. -/
structure Token where
  name : String
  description : String
  text : Context → Draw String

/-- The tokens that are known. -/
structure Registry where
  tokens : List Token

namespace Registry

def empty : Registry := ⟨[]⟩

/-- A list of tokens with `token` put in the place of the one of its name, or
at the end. -/
def place (token : Token) : List Token → List Token
  | [] => [token]
  | t :: more => if t.name = token.name then token :: more else t :: place token more

/-- Adds a token, in the place of an earlier one of the same name. -/
def register (registry : Registry) (token : Token) : Registry :=
  ⟨place token registry.tokens⟩

def find? (registry : Registry) (name : String) : Option Token :=
  registry.tokens.find? (·.name == name)

def contains (registry : Registry) (name : String) : Bool :=
  (registry.find? name).isSome

/-- The text of a token, `none` if it is not registered. -/
def resolve (registry : Registry) (context : Context) (name : String) : Draw (Option String) :=
  match registry.find? name with
  | some token => do return some (← token.text context)
  | none => return none

/-- Expands a template with the tokens of the registry. -/
def render (registry : Registry) (context : Context) (template : String) (selector : Selector) :
    Rendering Selector :=
  expand (fun name => (registry.resolve context name).run) template selector

/-- The tokens of a template that are not registered, each once, in the
order in which they first appear. -/
def unknownTokens (registry : Registry) (template : String) : Except JournalError (List String) :=
  (Template.tokens template).map fun names =>
    names.foldl (fun found name =>
      if registry.contains name || found.contains name then found else found ++ [name]) []

/-- A registry as it is shown to developers. -/
def shown (registry : Registry) : String :=
  "CommandRegistry \x7b tokens: [" ++
    String.intercalate ", " (registry.tokens.map fun t => Text.quoted t.name) ++ "] \x7d"

/-- The tokens that every template can use. -/
def builtin : Registry := ⟨[
  ⟨"META", "Front-matter block (tags: daily)", fun _ => return Note.frontMatter⟩,
  ⟨"MONTH_LINK", "Back-link to the month note, e.g. Month: [[March2024]]",
    fun context => return Note.monthLink context.day⟩,
  ⟨"QUOTE", "Heading, a random quote and its author", fun context => do
    return Note.unlines (Note.quoteHeading :: Note.quoteLines (← context.library.randomQuote))⟩,
  ⟨"PRACTICE", "Heading and a random practice", fun context => do
    return Note.unlines (Note.practiceLines (← context.library.randomPractice))⟩]⟩

end Registry

/-- The template of day notes when the user has none. -/
def defaultDay : String :=
  "%META%\n%MONTH_LINK%\n\n%QUOTE%\n\n---\n%PRACTICE%\n"

end Daybook.Template
