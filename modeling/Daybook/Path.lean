/-
Daybook.Path — paths of files and folders.

A path is kept as it was written. Two paths are the same place when they
have the same components: repeated and final slashes and dots inside a path
do not count, a dot at its start does, and `..` is never worked out. Every
component has its *stop*, the text of the path up to its end, and the
ancestors of a path are texts of stops; so the components of the k-th stop
are the first k components.
-/
import Daybook.Text.Cut
import Daybook.Text.Quoted

namespace Daybook

/-- One step of a path. -/
inductive Component where
  /-- The slash that an absolute path starts with. -/
  | root
  /-- A dot at the start of a relative path. -/
  | here
  /-- Two dots: the folder above. -/
  | up
  /-- A file or folder name. -/
  | name (text : String)
deriving DecidableEq, Repr

/-- A path as it was written. -/
structure Path where
  text : String
deriving DecidableEq, Repr, Inhabited

namespace Path

/-! ## Components -/

/-- The texts between the slashes, each with all of the path up to its end.
`done` is the part of the path read so far and `current` the text since the
last slash. -/
def segmentsFrom (done current : List Char) : List Char → List (List Char × List Char)
  | [] => [(current, done)]
  | c :: rest =>
    if c = '/' then (current, done) :: segmentsFrom (done ++ [c]) [] rest
    else segmentsFrom (done ++ [c]) (current ++ [c]) rest

/-- The component that a text between slashes is; nothing and a dot are none. -/
def component? (segment : List Char) : Option Component :=
  if segment = [] ∨ segment = ['.'] then none
  else if segment = ['.', '.'] then some .up
  else some (.name (.ofList segment))

/-- The components in a row of segments, each with its stop. -/
def stopsOf (segments : List (List Char × List Char)) : List (Component × List Char) :=
  segments.filterMap fun (segment, stop) => (component? segment).map (·, stop)

/-- The components of a path, each with the text of the path up to its end. -/
def stops (p : Path) : List (Component × List Char) :=
  match segmentsFrom [] [] p.text.toList with
  | [] => []
  | ([], _) :: [] => []
  | ([], _) :: more => (.root, ['/']) :: stopsOf more
  | (['.'], stop) :: more => (.here, stop) :: stopsOf more
  | segments => stopsOf segments

def components (p : Path) : List Component :=
  p.stops.map (·.1)

/-- The two paths are the same place. -/
def same (p q : Path) : Bool :=
  p.components == q.components

/-- The path starts at the root of the file tree. -/
def isAbsolute (p : Path) : Bool :=
  p.text.toList.head? == some '/'

/-- The path is written as nothing at all. -/
def isEmpty (p : Path) : Bool :=
  p.text.isEmpty

/-! ## Going up -/

/-- The folders above a path, the nearest first. Above the first component
of a relative path is the empty path; above the root is nothing. -/
def above (p : Path) : List Path :=
  match p.stops with
  | [] => []
  | first :: more =>
    let upper := ((first :: more).dropLast.map fun stop => Path.mk (.ofList stop.2)).reverse
    if first.1 = .root then upper else upper ++ [⟨""⟩]

def parent? (p : Path) : Option Path :=
  p.above.head?

/-- The path and the folders above it, the nearest first. -/
def ancestors (p : Path) : List Path :=
  p :: p.above

/-- The last component, if it is a name. -/
def fileName? (p : Path) : Option String :=
  match p.components.getLast? with
  | some (.name text) => some text
  | _ => none

/-- The file name without its extension. A dot at the start of a name
begins no extension. -/
def fileStem? (p : Path) : Option String := do
  let name ← p.fileName?
  match Text.cut? '.' name.toList.reverse with
  | some (_, before) => if before = [] then return name else return .ofList before.reverse
  | none => return name

/-! ## Going down -/

/-- The path reached from `base` by `part`. An absolute part stands for
itself; else a slash comes between, unless `base` is empty or ends with one. -/
def join (base : Path) (part : String) : Path :=
  if part.toList.head? = some '/' then ⟨part⟩
  else if base.text.toList.getLast?.all (· == '/') then ⟨base.text ++ part⟩
  else ⟨base.text ++ "/" ++ part⟩

/-- `join` for a part that must stay below `base`: its leading slashes are
left out. -/
def joinBelow (base : Path) (part : String) : Path :=
  base.join (.ofList (part.toList.dropWhile (· == '/')))

/-- The path between double quotes, as messages show it. -/
def shown (p : Path) : String :=
  Text.quoted p.text

example : (Path.mk "a//b/./c/").components = [.name "a", .name "b", .name "c"] := by
  decide +kernel

example : (Path.mk "./a/..").above = [⟨"./a"⟩, ⟨"."⟩, ⟨""⟩] := by decide +kernel

example : (Path.mk "//a/b").ancestors = [⟨"//a/b"⟩, ⟨"//a"⟩, ⟨"/"⟩] := by decide +kernel

end Path

end Daybook
