/-!
# A seeded stream of words

The words are the key stream of ChaCha with eight rounds: a key is drawn out of a 64-bit seed, the
blocks are counted from zero and the stream number is zero.  A word is a function of the seed and of
its place alone, so any two readers of the stream agree wherever both read.
-/

namespace DualEval.KeyStream

/-- Sixteen words, a state of the cipher. -/
abbrev Block := Vector UInt32 16

/-- Rotate a word to the left by fewer places than it has. -/
def rotateLeft (x : UInt32) (places : UInt32) : UInt32 := x <<< places ||| x >>> (32 - places)

/-- Rotate a word to the right by at most as many places as it has. -/
def rotateRight (x : UInt32) (places : UInt32) : UInt32 :=
  if places = 0 then x else x >>> places ||| x <<< (32 - places)

/-- The next state of the generator that a seed is drawn out with. -/
def advance (state : UInt64) : UInt64 := state * 6364136223846793005 + 11634580027462260723

/-- The word that a state of that generator yields. -/
def permute (state : UInt64) : UInt32 :=
  rotateRight (((state >>> 18) ^^^ state) >>> 27).toUInt32 (state >>> 59).toUInt32

/-- So many key words drawn out of a state. -/
def drawWords : Nat → UInt64 → List UInt32
  | 0, _ => []
  | count + 1, state =>
    let next := advance state
    permute next :: drawWords count next

/-- The first state of a block: the cipher's constants, the key, the block's number over two words
and the stream number. -/
def initial (seed : UInt64) (number : UInt64) : Block :=
  let key := drawWords 8 seed
  #v[0x61707865, 0x3320646e, 0x79622d32, 0x6b206574,
    key.getD 0 0, key.getD 1 0, key.getD 2 0, key.getD 3 0,
    key.getD 4 0, key.getD 5 0, key.getD 6 0, key.getD 7 0,
    number.toUInt32, (number >>> 32).toUInt32, 0, 0]

/-- Mix four words of a block. -/
def quarterRound (b : Block) (i j k l : Fin 16) : Block :=
  let w := b[i] + b[j]
  let z := rotateLeft (b[l] ^^^ w) 16
  let y := b[k] + z
  let x := rotateLeft (b[j] ^^^ y) 12
  let w := w + x
  let z := rotateLeft (z ^^^ w) 8
  let y := y + z
  let x := rotateLeft (x ^^^ y) 7
  (((b.set i w).set j x).set k y).set l z

/-- Mix the columns, then the diagonals. -/
def doubleRound (b : Block) : Block :=
  let b := quarterRound b 0 4 8 12
  let b := quarterRound b 1 5 9 13
  let b := quarterRound b 2 6 10 14
  let b := quarterRound b 3 7 11 15
  let b := quarterRound b 0 5 10 15
  let b := quarterRound b 1 6 11 12
  let b := quarterRound b 2 7 8 13
  quarterRound b 3 4 9 14

/-- The key stream of one block: eight rounds, added to the first state. -/
def block (seed number : UInt64) : Block :=
  let first := initial seed number
  let mixed := doubleRound (doubleRound (doubleRound (doubleRound first)))
  first.zipWith (· + ·) mixed

/-- The word at a place of the stream. -/
def word (seed : UInt64) (place : Nat) : UInt32 :=
  (block seed (UInt64.ofNat (place / 16)))[place % 16]

end DualEval.KeyStream
