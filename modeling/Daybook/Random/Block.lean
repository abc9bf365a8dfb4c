/-
Daybook.Random.Block — blocks of pseudo-random words.

A block is the ChaCha permutation of a square of sixteen words: four
constants, eight key words, a block number in two words and two zeros. The
square is mixed by columns and by diagonals, six times each, and then added
to itself as it was.
-/
namespace Daybook.Random

/-- The sixteen words of a block. -/
abbrev Square := Vector UInt32 16

/-- The eight words that a stream of blocks depends on. -/
abbrev Key := Vector UInt32 8

/-- The bits of a word moved to the left, those that leave it coming back on
the right. -/
def rotateLeft (x : UInt32) (n : UInt32) : UInt32 :=
  (x <<< n) ||| (x >>> (32 - n))

/-- Mixes four words of the square. -/
def quarterRound (s : Square) (a b c d : Fin 16) : Square :=
  let s := s.set a (s[a] + s[b])
  let s := s.set d (rotateLeft (s[d] ^^^ s[a]) 16)
  let s := s.set c (s[c] + s[d])
  let s := s.set b (rotateLeft (s[b] ^^^ s[c]) 12)
  let s := s.set a (s[a] + s[b])
  let s := s.set d (rotateLeft (s[d] ^^^ s[a]) 8)
  let s := s.set c (s[c] + s[d])
  s.set b (rotateLeft (s[b] ^^^ s[c]) 7)

/-- Mixes the columns of the square and then its diagonals. -/
def doubleRound (s : Square) : Square :=
  let s := quarterRound s 0 4 8 12
  let s := quarterRound s 1 5 9 13
  let s := quarterRound s 2 6 10 14
  let s := quarterRound s 3 7 11 15
  let s := quarterRound s 0 5 10 15
  let s := quarterRound s 1 6 11 12
  let s := quarterRound s 2 7 8 13
  quarterRound s 3 4 9 14

/-- The number of times that columns and diagonals are mixed. -/
def doubleRounds : Nat := 6

/-- The square that a block is made from. -/
def start (key : Key) (number : UInt64) : Square :=
  #v[0x61707865, 0x3320646E, 0x79622D32, 0x6B206574,
    key[0], key[1], key[2], key[3], key[4], key[5], key[6], key[7],
    number.toUInt32, (number >>> 32).toUInt32, 0, 0]

def block (key : Key) (number : UInt64) : Square :=
  let first := start key number
  let mixed := Nat.repeat doubleRound doubleRounds first
  first.zipWith (· + ·) mixed

end Daybook.Random
