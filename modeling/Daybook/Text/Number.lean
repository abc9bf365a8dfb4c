/-
Daybook.Text.Number — decimal numbers in texts.

Written numbers are padded with zeros up to a width in which the sign
counts: `-5` in four places is `-005`. A number that is wider is written
whole.
-/
namespace Daybook.Text

/-- `number` in decimal, with zeros between the sign and the digits up to
`width` characters. -/
def padded (width : Nat) (number : Int) : String :=
  let sign := if number < 0 then "-" else ""
  let digits := toString number.natAbs
  sign ++ .ofList (List.replicate (width - sign.length - digits.length) '0') ++ digits

/-- The value of a row of decimal digits. -/
def valueOfDigits (digits : List Char) : Nat :=
  digits.foldl (fun value d => value * 10 + (d.toNat - '0'.toNat)) 0

/-- `text` filled with blanks on its right up to `width` characters. -/
def filled (width : Nat) (text : String) : String :=
  text ++ .ofList (List.replicate (width - text.length) ' ')

example : padded 4 (-5) = "-005" ∧ padded 2 7 = "07" ∧ padded 4 12024 = "12024" := by
  decide +kernel

end Daybook.Text
