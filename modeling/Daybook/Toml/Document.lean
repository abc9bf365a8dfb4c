/-
Daybook.Toml.Document — the table that a text holds.

The statements are carried out one after another. Keys are given their
values in the table whose header came last, or at the top before any header.
-/
import Daybook.Toml.Statement

namespace Daybook.Toml

/-- What the statements so far have made. -/
structure Draft where
  root : Table
  /-- The path of the last header. -/
  current : List String

namespace Draft

def empty : Draft := ⟨[], []⟩

/-- Opens the table at a path. -/
def openAt (draft : Draft) (openAs : String → Table → Option Table) (path : List String) :
    Option Draft := do
  let key ← path.getLast?
  return ⟨← draft.root.descend (openAs key) path.dropLast, path⟩

def add (draft : Draft) : Statement → Option Draft
  | .assign path v => do
    return ⟨← draft.root.descend (Table.assign v path) draft.current, draft.current⟩
  | .table path => draft.openAt Table.openTable path
  | .element path => draft.openAt Table.openElement path

end Draft

/-- The table that statements make. -/
def Table.ofStatements? (statements : List Statement) : Option Table :=
  (statements.foldlM Draft.add .empty).map (·.root)

/-- The table that a text holds. -/
def parse? (text : String) : Option Table := do
  Table.ofStatements? (← statements? text)

end Daybook.Toml
