/-
Daybook.Note.Style — the two ways in which day notes are written.
-/
import Daybook.Error
import Daybook.Text.Blank

namespace Daybook

inductive BodyStyle where
  /-- From the sections that are turned on. -/
  | sections
  /-- From the user's template. -/
  | template
deriving DecidableEq, Repr

namespace BodyStyle

def name : BodyStyle → String
  | sections => "sections"
  | template => "template"

/-- The style that a user names; `section` will do as well. -/
def parse (typed : String) : Except JournalError BodyStyle :=
  let word := Text.plain typed
  if word = "sections" ∨ word = "section" then .ok .sections
  else if word = "template" then .ok .template
  else .error (.unknownBodyStyle typed)

end BodyStyle

end Daybook
