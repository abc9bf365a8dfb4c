/-
Daybook.Random.Selector — seeded random choices.

A selector is a key and the count of draws made with it; draw number `n`
takes the two words of the key's stream at place `2 n`. An index below
`len` is the high half of the product of a draw and `len`. Draws whose low
half lies above the *zone* are passed over, so that every index is met by
the same number of draws.
-/
import Daybook.Random.Block

namespace Daybook

structure Selector where
  key : Random.Key
  drawn : Nat
deriving DecidableEq, Repr

namespace Selector

/-! ## Seeds and draws -/

/-- The next state of the generator that stretches a seed into a key. -/
def stretch (state : UInt64) : UInt64 :=
  state * 6364136223846793005 + 11634580027462260723

/-- The word that a state of that generator gives. -/
def stretchedWord (state : UInt64) : UInt32 :=
  let word := (((state >>> 18) ^^^ state) >>> 27).toUInt32
  let turn : UInt32 := (state >>> 59).toUInt32
  Random.rotateLeft word ((32 : UInt32) - turn)

/-- The first `count` words that a seed is stretched into. -/
def stretchedWords : Nat → UInt64 → List UInt32
  | 0, _ => []
  | count + 1, state =>
    let next := stretch state
    stretchedWord next :: stretchedWords count next

def keyOf (seed : UInt64) : Random.Key :=
  .ofFn fun i => (stretchedWords 8 seed).getD i 0

def seeded (seed : UInt64) : Selector :=
  ⟨keyOf seed, 0⟩

/-- One draw: a number of 64 bits, low word first. -/
def next (s : Selector) : UInt64 × Selector :=
  let words := Random.block s.key (UInt64.ofNat (s.drawn / 8))
  let place := 2 * (s.drawn % 8)
  let low := words.getD place 0
  let high := words.getD (place + 1) 0
  (low.toUInt64 ||| (high.toUInt64 <<< 32), { s with drawn := s.drawn + 1 })

/-! ## Choices -/

/-- The range of draws. -/
def drawRange : Nat := UInt64.size

/-- The largest low half that is accepted for `len` indices: `len` is
shifted until its first bit is the first bit of a draw. -/
def zone (len : Nat) : Nat :=
  len * Nat.pow 2 (63 - len.log2) - 1

/-- The draw stands for an index below `len`. -/
def accepts (len draw : Nat) : Bool :=
  draw * len % drawRange ≤ zone len

/-- The index that a draw stands for. -/
def scaled (len draw : Nat) : Nat :=
  draw * len / drawRange

/-- An index below `len`, from the first accepted draw. At least half of all
draws are accepted, so it takes few tries; after the last of them a draw is
taken as it comes. -/
def indexWithin (len : Nat) : Nat → Selector → Nat × Selector
  | 0, s =>
    let (draw, s) := s.next
    (scaled len draw.toNat, s)
  | tries + 1, s =>
    let (draw, s) := s.next
    if accepts len draw.toNat then (scaled len draw.toNat, s)
    else indexWithin len tries s

/-- Far more draws than a choice takes: half of them are passed over at most. -/
def maxTries : Nat := 1024

/-- A random index below `len`. For `len = 0` there is none, and nothing is
drawn. -/
def index (s : Selector) (len : Nat) : Option Nat × Selector :=
  if len = 0 then (none, s)
  else
    let (i, s) := indexWithin len maxTries s
    (some i, s)

/-- A random element of a list, if it has one. -/
def pick {α : Type} (s : Selector) (xs : List α) : Option α × Selector :=
  let (i, s) := s.index xs.length
  (i.bind (xs[·]?), s)

end Selector

end Daybook
