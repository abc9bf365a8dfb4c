/-
Daybook.Toml.Value — values, and the tables that hold them.

Where a table comes from decides who may add to it: an inline table is
closed, a table made by dotted keys takes more dotted keys, a table that a
header only passed through may still get a header of its own. Fractions and
dates are not told apart, since no setting is one.
-/
namespace Daybook.Toml

/-- Where a table comes from. -/
inductive Origin where
  /-- It was written in braces. -/
  | inline
  /-- A dotted key led through it. -/
  | dotted
  /-- The header of another table led through it. -/
  | implied
  /-- It has a header. -/
  | header
deriving DecidableEq, Repr

inductive Value where
  | text (value : String)
  | integer (value : Int)
  | fraction
  | boolean (value : Bool)
  | dateTime
  | array (items : List Value)
  | table (origin : Origin) (entries : List (String × Value))
  /-- Tables of one name, each with a header in double brackets. -/
  | tables (earlier : List (List (String × Value))) (last : List (String × Value))

/-- Keys with their values, in the order in which they came. -/
abbrev Table := List (String × Value)

namespace Table

def get? (t : Table) (key : String) : Option Value :=
  t.lookup key

/-- The table with a value in the place of a key's old value, or at the end. -/
def put (key : String) (value : Value) : Table → Table
  | [] => [(key, value)]
  | (k, v) :: more => if k = key then (k, value) :: more else (k, v) :: put key value more

/-- Gives a value to a new key. A dotted key may lead through tables that
were made by dotted keys, and into new ones; through a table that was only
implied it may lead on, but not add to it. -/
def assign (value : Value) : List String → Table → Option Table
  | [], _ => none
  | [key], t =>
    match t.get? key with
    | none => some (t.put key value)
    | some _ => none
  | key :: next :: more, t =>
    match t.get? key with
    | none => (assign value (next :: more) []).map fun u => t.put key (.table .dotted u)
    | some (.table .dotted u) =>
      (assign value (next :: more) u).map fun u => t.put key (.table .dotted u)
    | some (.table .implied u) =>
      if more.isEmpty then none
      else (assign value (next :: more) u).map fun u => t.put key (.table .implied u)
    | some _ => none

/-- Changes the table that a header's path leads to. Tables that are missing
on the way are implied; of tables of one name the last one is meant. -/
def descend (change : Table → Option Table) : List String → Table → Option Table
  | [], t => change t
  | key :: more, t =>
    match t.get? key with
    | none => (descend change more []).map fun u => t.put key (.table .implied u)
    | some (.table .inline _) => none
    | some (.table origin u) => (descend change more u).map fun u => t.put key (.table origin u)
    | some (.tables earlier last) =>
      (descend change more last).map fun u => t.put key (.tables earlier u)
    | some _ => none

/-- Gives a header to a table that has none. -/
def openTable (key : String) (t : Table) : Option Table :=
  match t.get? key with
  | none => some (t.put key (.table .header []))
  | some (.table .implied u) => some (t.put key (.table .header u))
  | some _ => none

/-- Adds a table to those of one name. -/
def openElement (key : String) (t : Table) : Option Table :=
  match t.get? key with
  | none => some (t.put key (.tables [] []))
  | some (.tables earlier last) => some (t.put key (.tables (earlier ++ [last]) []))
  | some _ => none

/-- The table in which keys were given values one after another. -/
def ofAssignments? (assignments : List (List String × Value)) : Option Table :=
  assignments.foldlM (fun t a => assign a.2 a.1 t) []

end Table

end Daybook.Toml
