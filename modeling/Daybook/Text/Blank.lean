/-
Daybook.Text.Blank — white space, trimming and plain letter case.

White space is the Unicode property `White_Space`. Case is changed for the
letters `A` to `Z` alone: every name that a user types at this program is
an ASCII word.
-/
namespace Daybook.Text

/-- The character has the Unicode property `White_Space`. -/
def isBlank (c : Char) : Bool :=
  let n := c.toNat
  (0x09 ≤ n && n ≤ 0x0D) || n == 0x20 || n == 0x85 || n == 0xA0 || n == 0x1680 ||
    (0x2000 ≤ n && n ≤ 0x200A) || n == 0x2028 || n == 0x2029 || n == 0x202F ||
    n == 0x205F || n == 0x3000

def dropBlanks (cs : List Char) : List Char :=
  cs.dropWhile isBlank

/-- The text without the blanks at both of its ends. -/
def trim (text : String) : String :=
  .ofList (dropBlanks (dropBlanks text.toList).reverse).reverse

/-- The text with `A` to `Z` in lower case. -/
def lowered (text : String) : String :=
  text.map Char.toLower

/-- What a user typed, without surrounding blanks and in lower case: the
form in which words from the command line are compared. -/
def plain (typed : String) : String :=
  lowered (trim typed)

example : isBlank '\u200B' = false ∧ isBlank '\x0c' = true := by decide

end Daybook.Text
