/-
Daybook.Text.Quoted — a text shown between double quotes.

Messages that quote a path or a token name show it this way. What would
not be seen on the screen is written as an escape, so two different texts
are never shown alike.
-/
import Daybook.Text.Unprintable

namespace Daybook.Text

/-- The digits of a code point in lower-case hexadecimal. -/
def hexDigits (n : Nat) : List Char :=
  Nat.toDigits 16 n

/-- How a character is shown between double quotes. -/
def shown (c : Char) : List Char :=
  match c with
  | '"' => ['\\', '"']
  | '\\' => ['\\', '\\']
  | '\n' => ['\\', 'n']
  | '\r' => ['\\', 'r']
  | '\t' => ['\\', 't']
  | '\x00' => ['\\', '0']
  | c =>
    if isUnprintable c then ['\\', 'u', '\x7b'] ++ hexDigits c.toNat ++ ['\x7d']
    else [c]

/-- The text between double quotes. -/
def quoted (text : String) : String :=
  .ofList (['"'] ++ text.toList.flatMap shown ++ ['"'])

end Daybook.Text
