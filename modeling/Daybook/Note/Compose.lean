/-
Daybook.Note.Compose — a day note made of its sections.

The front matter and the link to the month come first, then the sections
that are turned on, with a line `---` between any two of them. A paragraph
directly above such a line would be read as a heading, so an empty line
comes between; of the sections only the quote ends in a paragraph.
-/
import Daybook.Note.Lines
import Daybook.Note.Section

namespace Daybook.Note

open Calendar (Day)

/-- The lines of a section. The quote and the practice are picked at random. -/
def sectionLines (library : Library) : Section → Draw (List String)
  | .quote => do return quoteLines (← library.randomQuote)
  | .morning => return morningLines
  | .evening => return eveningLines
  | .practice => do return practiceLines (← library.randomPractice)

/-- The section ends in a paragraph of its own. -/
def endsInParagraph : Section → Bool
  | .quote => true
  | .morning | .evening | .practice => false

/-- What stands between a section and the one after it. -/
def separator (s : Section) : List String :=
  if endsInParagraph s then ["", delimiter] else [delimiter]

/-- The lines of sections with separators between them. -/
def separated : List (Section × List String) → List String
  | [] => []
  | [(_, lines)] => lines
  | (s, lines) :: more => lines ++ separator s ++ separated more

def dayHead (day : Day) : List String :=
  frontMatterLines ++ [monthLink day, ""]

/-- The text of a day note with the sections that are turned on. -/
def composeDay (toggles : Toggles) (day : Day) (library : Library) : Draw String := do
  let blocks ← toggles.enabled.mapM fun s => do return (s, ← sectionLines library s)
  return unlines (dayHead day ++ separated blocks)

end Daybook.Note
