/-
Daybook.Library.Basic — the quotes and practices that notes draw from.

A library is accepted only with something on both of its shelves. A random
pick is a computation over the state of the selector, which stays as it is
after a failure too.
-/
import Daybook.Error
import Daybook.Random.Selector

namespace Daybook

structure Quote where
  text : String
  author : String
deriving DecidableEq, Repr

/-- A prompt for a daily exercise. -/
structure Practice where
  text : String
deriving DecidableEq, Repr

structure Library where
  quotes : List Quote
  practices : List Practice
deriving DecidableEq, Repr

/-- A computation that makes random choices and may fail. What was drawn
before a failure stays drawn. -/
abbrev Draw (α : Type) := ExceptT JournalError (StateM Selector) α

namespace Library

/-- A library with these lists, neither of which may be empty. The quotes
are looked at first. -/
def ofLists (quotes : List Quote) (practices : List Practice) : Except JournalError Library :=
  if quotes.isEmpty then .error (.emptyLibrary .quotes)
  else if practices.isEmpty then .error (.emptyLibrary .practices)
  else .ok ⟨quotes, practices⟩

/-- A random element of a list, which belongs to a shelf of a library. -/
def pickFrom {α : Type} (shelf : Shelf) (xs : List α) : Draw α := fun selector =>
  match selector.pick xs with
  | (some x, selector) => (.ok x, selector)
  | (none, selector) => (.error (.emptyLibrary shelf), selector)

def randomQuote (library : Library) : Draw Quote :=
  pickFrom .quotes library.quotes

def randomPractice (library : Library) : Draw Practice :=
  pickFrom .practices library.practices

end Library

end Daybook
