/-
Daybook.Note.Section — the sections of a day note and their switches.

A day note has up to four sections, always in the same order. The user
turns them on and off by name; a name is understood in any case, with
hyphens for underscores, and without its `show_`.
-/
import Daybook.Error
import Daybook.Text.Blank

namespace Daybook

inductive Section where
  | quote
  | morning
  | evening
  | practice
deriving DecidableEq, Repr

namespace Section

/-- The sections in the order in which they appear. -/
def all : List Section := [quote, morning, evening, practice]

def key : Section → String
  | quote => "show_quote"
  | morning => "show_morning_note"
  | evening => "show_evening_note"
  | practice => "show_practice"

/-- The switch as users read it. -/
def title : Section → String
  | quote => "Show Quote"
  | morning => "Show Morning Note"
  | evening => "Show Evening Note"
  | practice => "Show Practice"

def description : Section → String
  | quote => "Display stoic quote"
  | morning => "Display title for morning note"
  | evening => "Display title for evening note"
  | practice => "Display stoic practice"

/-- What the keys of all switches start with. -/
def keyStart : List Char := "show_".toList

/-- The text without `show_` at its start. -/
def withoutStart (cs : List Char) : List Char :=
  if keyStart.isPrefixOf cs then cs.drop keyStart.length else cs

/-- What a user typed as the name of a switch, in the form of the keys. -/
def normalised (typed : String) : List Char :=
  (Text.plain typed).toList.map fun c => if c = '-' then '_' else c

/-- The section whose switch a user names. -/
def named? (typed : String) : Option Section :=
  all.find? fun s => withoutStart s.key.toList == withoutStart (normalised typed)

/-- The section whose switch a user names, or the complaint about the name
as it was typed. -/
def parse (typed : String) : Except JournalError Section :=
  match named? typed with
  | some s => .ok s
  | none => .error (.unknownToggle typed)

end Section

/-- Which sections a day note has. -/
structure Toggles where
  quote : Bool
  morning : Bool
  evening : Bool
  practice : Bool
deriving DecidableEq, Repr

namespace Toggles

def allOn : Toggles := ⟨true, true, true, true⟩

def get (toggles : Toggles) : Section → Bool
  | .quote => toggles.quote
  | .morning => toggles.morning
  | .evening => toggles.evening
  | .practice => toggles.practice

/-- The switches after one of them was turned on or off. -/
def set (toggles : Toggles) (s : Section) (value : Bool) : Toggles :=
  match s with
  | .quote => { toggles with quote := value }
  | .morning => { toggles with morning := value }
  | .evening => { toggles with evening := value }
  | .practice => { toggles with practice := value }

theorem get_set (toggles : Toggles) (s s' : Section) (value : Bool) :
    (toggles.set s value).get s' = if s' = s then value else toggles.get s' := by
  cases s <;> cases s' <;> rfl

/-- The sections that are turned on, in order. -/
def enabled (toggles : Toggles) : List Section :=
  Section.all.filter toggles.get

/-- The switches after the one that a user names was turned on or off. -/
def setNamed (toggles : Toggles) (typed : String) (value : Bool) :
    Except JournalError (Section × Toggles) :=
  match Section.parse typed with
  | .ok s => .ok (s, toggles.set s value)
  | .error e => .error e

end Toggles

end Daybook
