/-
Daybook.Proofs.Json.Grammar — how JSON values are spelled.

The grammar is written down on its own, by what stands where in a text, with
nothing said of how a text is read. Numbers and strings are put together from
rows of characters. Values, items and members are spelled inside one another,
so they are one mutual family, in which `Padded` lets gaps stand around a
value. A whole text is such a value too (`Document`).

A string is a row of units, each of which is a character or half of a
surrogate pair. It has a text if the halves come in pairs (`Meant`).
-/
import Daybook.Json.Value

namespace Daybook.Json.Grammar

open Text (hexValue?)

/-! ## 1. Numbers -/

/-- Nothing, or what may stand between values. -/
def Gap (cs : List Char) : Prop := ∀ c ∈ cs, c ∈ [' ', '\n', '\t', '\r']

def Digits (cs : List Char) : Prop := cs ≠ [] ∧ ∀ c ∈ cs, c.isDigit = true

/-- What stands before the point. No other digits stand behind a zero there. -/
inductive Whole : List Char → Prop where
  | zero : Whole ['0']
  | digits {c : Char} {cs : List Char} (h : Digits (c :: cs)) (hc : c ≠ '0') : Whole (c :: cs)

inductive Fraction : List Char → Prop where
  | absent : Fraction []
  | digits {cs : List Char} (h : Digits cs) : Fraction ('.' :: cs)

inductive Exponent : List Char → Prop where
  | absent : Exponent []
  | digits {e : Char} {sign cs : List Char} (he : e = 'e' ∨ e = 'E')
    (hsign : sign ∈ [[], ['+'], ['-']]) (h : Digits cs) : Exponent (e :: (sign ++ cs))

inductive Number : List Char → Prop where
  | mk {sign whole fraction exponent : List Char} (hsign : sign ∈ [[], ['-']])
    (hwhole : Whole whole) (hfraction : Fraction fraction) (hexponent : Exponent exponent) :
    Number (sign ++ (whole ++ (fraction ++ exponent)))

/-! ## 2. Strings -/

/-- Four hexadecimal digits and their number. -/
inductive Hex : Nat → List Char → Prop where
  | mk {a b c d : Char} {w x y z : Nat} (ha : hexValue? a = some w) (hb : hexValue? b = some x)
    (hc : hexValue? c = some y) (hd : hexValue? d = some z) :
    Hex (0x1000 * w + 0x100 * x + 0x10 * y + z) [a, b, c, d]

/-- The letters behind a backslash and what each stands for. -/
def escapes : List (Char × Char) :=
  [('"', '"'), ('\\', '\\'), ('/', '/'), ('b', '\x08'), ('f', '\x0c'), ('n', '\n'), ('r', '\r'),
    ('t', '\t')]

/-- A unit by itself, as the letter of an escape, or as a number of sixteen bits. -/
inductive Piece : Unit16 → List Char → Prop where
  | plain {c : Char} (hquote : c ≠ '"') (hbackslash : c ≠ '\\') (hcontrol : 0x20 ≤ c.toNat) :
    Piece (.char c) [c]
  | escape {letter c : Char} (h : (letter, c) ∈ escapes) : Piece (.char c) ['\\', letter]
  | char {n : Nat} {cs : List Char} (h : Hex n cs) (hn : n < 0xD800 ∨ 0xE000 ≤ n) :
    Piece (.char (.ofNat n)) ('\\' :: 'u' :: cs)
  | high {n : Nat} {cs : List Char} (h : Hex (0xD800 + n) cs) (hn : n < 0x400) :
    Piece (.high n) ('\\' :: 'u' :: cs)
  | low {n : Nat} {cs : List Char} (h : Hex (0xDC00 + n) cs) (hn : n < 0x400) :
    Piece (.low n) ('\\' :: 'u' :: cs)

inductive Pieces : List Unit16 → List Char → Prop where
  | nil : Pieces [] []
  | cons {u : Unit16} {us : List Unit16} {cs ds : List Char} (hu : Piece u cs)
    (hmore : Pieces us ds) : Pieces (u :: us) (cs ++ ds)

/-- The characters that a row of units stands for. The halves of a pair stand for one. -/
inductive Meant : List Unit16 → List Char → Prop where
  | nil : Meant [] []
  | char {c : Char} {us : List Unit16} {cs : List Char} (h : Meant us cs) :
    Meant (.char c :: us) (c :: cs)
  | pair {m n : Nat} {us : List Unit16} {cs : List Char} (h : Meant us cs) :
    Meant (.high m :: .low n :: us) (.ofNat (0x10000 + m * 0x400 + n) :: cs)

/-- A string between its quotes, with its text if it has one. -/
inductive Quoted : Option String → List Char → Prop where
  | mk {text : Option String} {us : List Unit16} {cs : List Char} (hpieces : Pieces us cs)
    (htext : ∀ s, text = some s ↔ Meant us s.toList) : Quoted text ('"' :: (cs ++ ['"']))

/-! ## 3. Values -/

mutual

inductive Spelled : Value → List Char → Prop where
  | null : Spelled .null "null".toList
  | yes : Spelled (.bool true) "true".toList
  | no : Spelled (.bool false) "false".toList
  | number {cs : List Char} (h : Number cs) : Spelled .number cs
  | string {text : Option String} {cs : List Char} (h : Quoted text cs) : Spelled (.string text) cs
  | noItems {cs : List Char} (h : Gap cs) : Spelled (.array []) ('[' :: (cs ++ [']']))
  | items {vs : List Value} {cs : List Char} (h : Items vs cs) :
    Spelled (.array vs) ('[' :: (cs ++ [']']))
  | noMembers {cs : List Char} (h : Gap cs) : Spelled (.object []) ('\x7b' :: (cs ++ ['\x7d']))
  | members {ms : List (Option String × Value)} {cs : List Char} (h : Members ms cs) :
    Spelled (.object ms) ('\x7b' :: (cs ++ ['\x7d']))

/-- A value with gaps around it. -/
inductive Padded : Value → List Char → Prop where
  | mk {v : Value} {before cs after : List Char} (hbefore : Gap before) (h : Spelled v cs)
    (hafter : Gap after) : Padded v (before ++ (cs ++ after))

/-- Some values, and commas between them. -/
inductive Items : List Value → List Char → Prop where
  | last {v : Value} {cs : List Char} (h : Padded v cs) : Items [v] cs
  | more {v : Value} {vs : List Value} {cs ds : List Char} (h : Padded v cs) (hmore : Items vs ds) :
    Items (v :: vs) (cs ++ ',' :: ds)

/-- A key, a colon and a value. -/
inductive Member : Option String × Value → List Char → Prop where
  | mk {key : Option String} {v : Value} {before name after cs : List Char} (hbefore : Gap before)
    (hkey : Quoted key name) (hafter : Gap after) (h : Padded v cs) :
    Member (key, v) (before ++ (name ++ (after ++ ':' :: cs)))

/-- Some members, and commas between them. -/
inductive Members : List (Option String × Value) → List Char → Prop where
  | last {m : Option String × Value} {cs : List Char} (h : Member m cs) : Members [m] cs
  | more {m : Option String × Value} {ms : List (Option String × Value)} {cs ds : List Char}
    (h : Member m cs) (hmore : Members ms ds) : Members (m :: ms) (cs ++ ',' :: ds)

end

/-- A text that is a JSON text for a value. -/
def Document (v : Value) (text : String) : Prop := Padded v text.toList

end Daybook.Json.Grammar
