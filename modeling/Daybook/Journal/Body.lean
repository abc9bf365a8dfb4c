/-
Daybook.Journal.Body — how the text of a new day note comes about.

The text is either composed of the sections that are turned on or expanded
from the user's template. First the storage is read, which may fail; what
is left then is a rendering, which depends on chance alone.
-/
import Daybook.Layout
import Daybook.Note.Compose
import Daybook.Note.Style
import Daybook.Storage.Query
import Daybook.Template.Registry

namespace Daybook

/-- What makes the text of day notes. -/
inductive BodyBuilder where
  | sections (toggles : Toggles)
  | template (registry : Template.Registry)

namespace BodyBuilder

open Calendar (Day)
open Storage (Try)

def style : BodyBuilder → BodyStyle
  | sections _ => .sections
  | template _ => .template

/-- The text of a template file, `none` if there is no such file. It is read
anew for every note. -/
def readTemplate (path : Path) : Try (Option String) := do
  if ← Storage.isPresent path then
    match ← Storage.read path with
    | .ok text => return some text
    | .error cause => throw (.fileRead path cause)
  else return none

/-- The user's template, or the built-in one with a warning. -/
def loadTemplate (layout : Layout) : Try (String × List Warning) := do
  match ← readTemplate layout.templatePath with
  | some text => return (text, [])
  | none => return (Template.defaultDay, [.noTemplate layout.templatePath])

/-- The text composed of sections, as a rendering. -/
def renderSections (toggles : Toggles) (context : Template.Context) (selector : Selector) :
    Rendering Selector :=
  let (outcome, state) := (Note.composeDay toggles context.day context.library).run.run selector
  ⟨outcome, state, []⟩

/-- A rendering before which some warnings were given. -/
def warnedBefore (warnings : List Warning) (r : Rendering Selector) : Rendering Selector :=
  { r with warnings := warnings ++ r.warnings }

/-- Reads what the text of a day note depends on. -/
def prepare (builder : BodyBuilder) (layout : Layout) (context : Template.Context) :
    Try (Selector → Rendering Selector) := do
  match builder with
  | .sections toggles => return renderSections toggles context
  | .template registry =>
    let (source, warnings) ← loadTemplate layout
    return fun selector => warnedBefore warnings (registry.render context source selector)

end BodyBuilder

end Daybook
