/-
Daybook.Template.Expand — texts with tokens.

A token is a name between two `%`. Marks are paired from the left, and what
a token stands for is not looked at again. A token that nobody knows stands
for nothing; a mark without a partner is an error, which names the byte at
which it stands and the text after it.
-/
import Daybook.Rendering
import Daybook.Text.Bytes
import Daybook.Text.Cut

namespace Daybook.Template

/-- The character before and after the name of a token. -/
def mark : Char := '%'

/-- Gives the text of a token, or `none` for a token that it does not know.
It may keep a state, and it may fail. -/
abbrev Resolver (σ : Type) := String → σ → Except JournalError (Option String) × σ

/-- The rendering that goes on with `rest` after a text and a token. -/
def goOn {σ : Type} (before : List Char) (token : String) (text : Option String)
    (rest : Rendering σ) : Rendering σ where
  outcome := rest.outcome.map fun more => .ofList before ++ text.getD "" ++ more
  state := rest.state
  warnings := match text with
    | some _ => rest.warnings
    | none => .unknownToken token :: rest.warnings

/-- Expands a template that goes on from a byte of the whole one. -/
def expandFrom {σ : Type} (resolve : Resolver σ) (offset : Nat) (template : List Char)
    (state : σ) : Rendering σ :=
  match _opening : Text.cut? mark template with
  | none => ⟨.ok (.ofList template), state, []⟩
  | some (before, after) =>
    match _closing : Text.cut? mark after with
    | none => ⟨.error (.unterminated (offset + Text.bytes before) (.ofList after)), state, []⟩
    | some (token, rest) =>
      match resolve (.ofList token) state with
      | (.error e, state) => ⟨.error e, state, []⟩
      | (.ok text, state) =>
        goOn before (.ofList token) text
          (expandFrom resolve (offset + Text.bytes before + Text.bytes token + 2) rest state)
termination_by template.length
decreasing_by
  have := Text.length_of_cut? _opening
  have := Text.length_of_cut? _closing
  omega

def expand {σ : Type} (resolve : Resolver σ) (template : String) (state : σ) : Rendering σ :=
  expandFrom resolve 0 template.toList state

/-- The tokens of a template that goes on from a byte of the whole one. -/
def tokensFrom (offset : Nat) (template : List Char) : Except JournalError (List String) :=
  match _opening : Text.cut? mark template with
  | none => .ok []
  | some (before, after) =>
    match _closing : Text.cut? mark after with
    | none => .error (.unterminated (offset + Text.bytes before) (.ofList after))
    | some (token, rest) =>
      (tokensFrom (offset + Text.bytes before + Text.bytes token + 2) rest).map
        (String.ofList token :: ·)
termination_by template.length
decreasing_by
  have := Text.length_of_cut? _opening
  have := Text.length_of_cut? _closing
  omega

/-- The names of the tokens of a template in order, found without expanding
anything. -/
def tokens (template : String) : Except JournalError (List String) :=
  tokensFrom 0 template.toList

end Daybook.Template
