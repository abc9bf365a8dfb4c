/-
Daybook.Library.Load — a library with the user's own lists.

A folder may hold a file with quotes and a file with practices. A file that
is there takes the place of the bundled list, whether or not the other one
is there too, and must then be readable and hold such a list.
-/
import Daybook.Json.Value
import Daybook.Library.Bundled
import Daybook.Storage.Query

namespace Daybook.Library

open Storage (Try)

def quotesFile : String := "quotes.json"

def practicesFile : String := "practices.json"

def quoteOf? (v : Json.Value) : Option Quote := do
  match ← v.fields? ["text", "author"] with
  | [text, author] => return ⟨← text.text?, ← author.text?⟩
  | _ => none

def practiceOf? (v : Json.Value) : Option Practice := do
  match ← v.fields? ["text"] with
  | [text] => return ⟨← text.text?⟩
  | _ => none

/-- The list that is the one field of the record in a text. -/
def listIn? {α : Type} (field : String) (read : Json.Value → Option α) (text : String) :
    Option (List α) := do
  match ← (← Json.parse? text).fields? [field] with
  | [list] => (← list.items?).mapM read
  | _ => none

def quotesIn? : String → Option (List Quote) :=
  listIn? "quotes" quoteOf?

def practicesIn? : String → Option (List Practice) :=
  listIn? "practices" practiceOf?

/-- The list in a file if the file is there, and else the bundled one. -/
def loadList {α : Type} (path : Path) (read : String → Option (List α)) (bundled : List α) :
    Try (List α) := do
  if ← Storage.isPresent path then
    match ← Storage.read path with
    | .error cause => throw (.fileRead path cause)
    | .ok text =>
      match read text with
      | some list => return list
      | none => throw (.libraryParse path)
  else return bundled

/-- The bundled library with the lists in a folder in place of its own. -/
def load (folder : Path) : Try Library := do
  let quotes ← loadList (folder.join quotesFile) quotesIn? bundledQuotes
  let practices ← loadList (folder.join practicesFile) practicesIn? bundledPractices
  ofLists quotes practices

/-- The library of a user who may have chosen a folder. -/
def loadChosen : Option Path → Try Library
  | some folder => load folder
  | none => ofLists bundledQuotes bundledPractices

end Daybook.Library
