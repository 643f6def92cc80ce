/-!
# The seeded stream of words

A seed of 64 bits is stretched to a key of eight words by a linear congruence
with a permuted output. The key and a block number fill a block of the ChaCha
cipher with twelve rounds, and the blocks one after another are the stream. So
the word at any index is a function of seed and index alone.

The words of a block are mixed by addition, exclusive or and rotation, and what
is said of blocks and words here serves the hash of tokens as well.
-/

namespace Vivarium.Number

abbrev Block := Vector UInt32 16

/-- A place in a block. -/
structure Place where
  index : Fin 16

/-- The place with a given number; the numbers go around the block. -/
def Place.ofNat (n : Nat) : Place :=
  { index := ⟨n % 16, Nat.mod_lt n (by decide)⟩ }

instance placeOfNat (n : Nat) : OfNat Place n :=
  ⟨.ofNat n⟩

def Block.word (block : Block) (place : Place) : UInt32 :=
  block.get place.index

def Block.put (block : Block) (place : Place) (word : UInt32) : Block :=
  block.set place.index word

/-- A word rotated left by `n` places, for `n` between 1 and 31. -/
def rotateLeft (x n : UInt32) : UInt32 :=
  (x <<< n) ||| (x >>> (32 - n))

/-- A word rotated right by `n` places; zero and thirty-two places change nothing. -/
def rotateRight (x n : UInt32) : UInt32 :=
  (x >>> n) ||| (x <<< (32 - n))

/-- Bytes as one number, the first byte lowest. -/
def littleEndian (bytes : List UInt8) : Nat :=
  bytes.foldr (fun byte rest => byte.toNat + 256 * rest) 0

end Vivarium.Number

namespace Vivarium.Random

open Number

/-- One quarter round on four words of the block. -/
def quarterRound (s : Block) (a b c d : Place) : Block :=
  let s := s.put a (s.word a + s.word b)
  let s := s.put d (rotateLeft (s.word d ^^^ s.word a) 16)
  let s := s.put c (s.word c + s.word d)
  let s := s.put b (rotateLeft (s.word b ^^^ s.word c) 12)
  let s := s.put a (s.word a + s.word b)
  let s := s.put d (rotateLeft (s.word d ^^^ s.word a) 8)
  let s := s.put c (s.word c + s.word d)
  s.put b (rotateLeft (s.word b ^^^ s.word c) 7)

/-- Two rounds: the four columns, then the four diagonals. -/
def doubleRound (s : Block) : Block :=
  let s := quarterRound s 0 4 8 12
  let s := quarterRound s 1 5 9 13
  let s := quarterRound s 2 6 10 14
  let s := quarterRound s 3 7 11 15
  let s := quarterRound s 0 5 10 15
  let s := quarterRound s 1 6 11 12
  let s := quarterRound s 2 7 8 13
  quarterRound s 3 4 9 14

/-- The words that open every block. -/
def constants : Vector UInt32 4 :=
  #v[0x61707865, 0x3320646e, 0x79622d32, 0x6b206574]

/-- The block of a key before mixing: constants, key, block number, two words of zero. -/
def openBlock (key : Vector UInt32 8) (number : Nat) : Block :=
  constants ++ key ++ #v[UInt32.ofNat number, UInt32.ofNat (number / UInt32.size), 0, 0]

/-- The block of a key with a given number, after twelve rounds. -/
def block (key : Vector UInt32 8) (number : Nat) : Block :=
  let start := openBlock key number
  (Nat.repeat doubleRound 6 start).zipWith (· + ·) start

/-- One step of the congruence that stretches a seed. -/
def stretch (state : UInt64) : UInt64 :=
  state * 6364136223846793005 + 11634580027462260723

/-- The word that a state of the congruence gives out. -/
def permuted (state : UInt64) : UInt32 :=
  rotateRight (((state >>> 18) ^^^ state) >>> 27).toUInt32 (state >>> 59).toUInt32

def keyOf (seed : UInt64) : Vector UInt32 8 :=
  Vector.ofFn fun i => permuted (Nat.repeat stretch (i + 1) seed)

/-- A source of words and how many of them have been taken. -/
structure Source where
  words : Nat → UInt32
  position : Nat

namespace Source

def seeded (seed : UInt64) : Source :=
  let key := keyOf seed
  { words := fun n => (block key (n / 16)).word (.ofNat n), position := 0 }

/-- The source after `n` more words. -/
def skip (source : Source) (n : Nat) : Source :=
  { source with position := source.position + n }

def word (source : Source) : UInt32 :=
  source.words source.position

/-- The next two words as one number, the first of them low. -/
def wide (source : Source) : Nat :=
  (source.words source.position).toNat + UInt32.size * (source.words (source.position + 1)).toNat

end Source

end Vivarium.Random
