/-
Daybook.Note.Lines — the lines that notes are made of.

Notes are Markdown with a front matter. A day note links back to its month
note and a month note to its year note, by identifier. The notes of months
and years have a fixed text.
-/
import Daybook.Calendar.Day
import Daybook.Library.Basic

namespace Daybook.Note

open Calendar (Day)

/-- The line above and below the front matter, and between sections. -/
def delimiter : String := "---"

/-- Lines as one text, without a line break at the end. -/
def unlines (lines : List String) : String :=
  String.intercalate "\n" lines

def frontMatterLines : List String := [delimiter, "tags: daily", delimiter]

/-- The front matter that every note starts with. -/
def frontMatter : String := unlines frontMatterLines

/-- The link from a day note to its month note. -/
def monthLink (day : Day) : String :=
  "Month: [[" ++ day.monthId ++ "]]"

/-- The link from a month note to its year note. -/
def yearLink (day : Day) : String :=
  "Year: [[" ++ day.yearId ++ "]]"

/-- A quote and its author. The dash is escaped, so that it starts no list. -/
def quoteLines (quote : Quote) : List String :=
  ["> " ++ quote.text, "\\- " ++ quote.author]

def quoteHeading : String := "# Today Quote"

def practiceHeading : String := "# Today Practice"

def practiceLines (practice : Practice) : List String :=
  [practiceHeading, "> " ++ practice.text]

/-- The place for notes in the morning. -/
def morningLines : List String := ["# Morning Notes", "- Today I will ..."]

/-- The place for notes in the evening. -/
def eveningLines : List String := ["# Evening Notes", "- This day was ..."]

def monthText (day : Day) : String :=
  unlines [frontMatter, yearLink day, "", "# The result of a stoic month"]

def yearText : String :=
  unlines [frontMatter, "", "# The result of a stoic year"]

end Daybook.Note
