/-
Daybook.Toml.Number — numbers.

A whole number is decimal, or marked as hexadecimal, octal or binary; an
underscore may stand between two digits. Numbers that no machine word of
128 bits can hold are not read, nor are fractions that are too large for a
double.
-/
import Daybook.Text.Reader

namespace Daybook.Toml

open Text (hexValue?)

/-- The digits of a number in a given base, without the underscores. -/
def digits? (base : Nat) : List Char → Option (List Nat)
  | [] => none
  | [c] =>
    match hexValue? c with
    | some d => if d < base then some [d] else none
    | none => none
  | c :: c' :: rest =>
    match hexValue? c with
    | some d =>
      if d < base then
        (if c' = '_' then digits? base rest else digits? base (c' :: rest)).map (d :: ·)
      else none
    | none => none

/-- The number with the given digits. -/
def ofDigits (base : Nat) (digits : List Nat) : Nat :=
  digits.foldl (fun n d => n * base + d) 0

/-- The digits of a decimal number, which has no zeros at its front. -/
def decimal? (cs : List Char) : Option (List Nat) :=
  match cs with
  | '0' :: _ :: _ => none
  | _ => digits? 10 cs

/-- A sign, if there is one, and what comes behind it. -/
def signed : List Char → Bool × List Char
  | '+' :: rest => (false, rest)
  | '-' :: rest => (true, rest)
  | cs => (false, cs)

/-- A whole number, however large. -/
def anyInteger? (cs : List Char) : Option Int :=
  match cs with
  | '0' :: 'x' :: rest => (digits? 16 rest).map fun ds => ofDigits 16 ds
  | '0' :: 'o' :: rest => (digits? 8 rest).map fun ds => ofDigits 8 ds
  | '0' :: 'b' :: rest => (digits? 2 rest).map fun ds => ofDigits 2 ds
  | cs =>
    let (negative, rest) := signed cs
    (decimal? rest).map fun ds =>
      let n : Int := ofDigits 10 ds
      if negative then -n else n

/-- The number can be held by a word of 128 bits, with or without a sign. -/
def isHeld (n : Int) : Bool :=
  -0x80000000000000000000000000000000 ≤ n && n < 0x100000000000000000000000000000000

def integer? (cs : List Char) : Option Int :=
  (anyInteger? cs).filter isHeld

/-! ## Fractions -/

/-- A decimal fraction: `digits` with the point moved by `exponent` places. -/
structure Fraction where
  digits : Nat
  exponent : Int
deriving DecidableEq, Repr

/-- The least number that a double cannot hold: half a step above the
largest one. -/
def doubleBound : Nat := Nat.pow 2 1024 - Nat.pow 2 970

/-- The fraction is too large for a double. Three hundred places settle most
cases without the power. -/
def Fraction.isTooLarge (f : Fraction) : Bool :=
  if f.digits = 0 then false
  else
    let places : Int := (Nat.toDigits 10 f.digits).length + f.exponent
    if places < 300 then false
    else if 320 < places then true
    else if 0 ≤ f.exponent then doubleBound ≤ f.digits * Nat.pow 10 f.exponent.toNat
    else doubleBound * Nat.pow 10 (-f.exponent).toNat ≤ f.digits

/-- The exponent of a fraction behind its `e`. -/
def exponent? (cs : List Char) : Option Int :=
  let (negative, rest) := signed cs
  (digits? 10 rest).map fun ds =>
    let n : Int := ofDigits 10 ds
    if negative then -n else n

/-- The part of the characters up to one of a kind, and what comes behind it. -/
def splitAtFirst (kind : Char → Bool) (cs : List Char) : List Char × Option (List Char) :=
  (cs.takeWhile (!kind ·), match cs.dropWhile (!kind ·) with
    | [] => none
    | _ :: rest => some rest)

/-- A fraction without its sign. It has a point or an exponent. -/
def fraction? (cs : List Char) : Option Fraction := do
  let (front, exponent) := splitAtFirst (fun c => c == 'e' || c == 'E') cs
  let (whole, places) := splitAtFirst (· == '.') front
  let wholeDigits ← decimal? whole
  match places, exponent with
  | none, none => none
  | none, some e => return ⟨ofDigits 10 wholeDigits, ← exponent? e⟩
  | some p, none =>
    let ds ← digits? 10 p
    return ⟨ofDigits 10 (wholeDigits ++ ds), -ds.length⟩
  | some p, some e =>
    let ds ← digits? 10 p
    return ⟨ofDigits 10 (wholeDigits ++ ds), (← exponent? e) - ds.length⟩

/-- The characters are a fraction, or the word for infinity or for no number. -/
def isFraction (cs : List Char) : Bool :=
  let rest := (signed cs).2
  rest == "inf".toList || rest == "nan".toList ||
    (fraction? rest).any fun f => !f.isTooLarge

end Daybook.Toml
