/-
Daybook.Layout — where notes are kept.

Every note belongs to a period: a year, a month or a day. The note of a
year lies in the folder of the year, the notes of a month and of its days
in the folder of the month inside it. The file of a note is named for the
note's identifier.
-/
import Daybook.Calendar.Day
import Daybook.Path

namespace Daybook

open Calendar (Day)

/-- The span of time that a note is about. -/
inductive Period where
  | year
  | month
  | day
deriving DecidableEq, Repr

/-- The periods from the longest to the shortest, the order in which their
notes are made. -/
def Period.all : List Period := [.year, .month, .day]

def Period.name : Period → String
  | year => "year"
  | month => "month"
  | day => "day"

/-- Where one note is kept. -/
structure Location where
  period : Period
  id : String
  folder : Path
  file : Path
deriving DecidableEq, Repr

/-- Where all notes and the template are kept. -/
structure Layout where
  root : Path
  templateFile : String
deriving DecidableEq, Repr

namespace Layout

def defaultTemplateFile : String := "TEMPLATE.md"

/-- The layout below a folder, with the usual template file. -/
def under (root : Path) : Layout :=
  ⟨root, defaultTemplateFile⟩

/-- The template file. It is always below the root folder. -/
def templatePath (layout : Layout) : Path :=
  layout.root.joinBelow layout.templateFile

def folder (layout : Layout) (period : Period) (day : Day) : Path :=
  match period with
  | .year => layout.root.join day.yearId
  | .month | .day => (layout.root.join day.yearId).join day.monthId

def noteId (period : Period) (day : Day) : String :=
  match period with
  | .year => day.yearId
  | .month => day.monthId
  | .day => day.dayId

/-- Where the note of the period around a day is kept. -/
def locate (layout : Layout) (period : Period) (day : Day) : Location :=
  let folder := layout.folder period day
  let id := noteId period day
  ⟨period, id, folder, folder.join (id ++ ".md")⟩

end Layout

end Daybook
