import Vivarium.Random.Stream

/-!
# The BLAKE3 hash

The input is cut into chunks of 1024 bytes and each chunk into blocks of 64.
A chunk chains its blocks through the compression function; the chunks are the
leaves of a binary tree whose left side always holds the largest power of two
of chunks that leaves something for the right. The root of the tree is
compressed once more under a flag of its own, and the hash is what comes out.
-/

namespace Vivarium.Blake3

open Number

/-- Eight words that chain one compression to the next. -/
abbrev Chain := Vector UInt32 8

/-- The chaining value that everything starts from. -/
def start : Chain :=
  #v[0x6A09E667, 0xBB67AE85, 0x3C6EF372, 0xA54FF53A, 0x510E527F, 0x9B05688C, 0x1F83D9AB, 0x5BE0CD19]

/-- The order in which a round passes the words of the message to the next. -/
def order : Vector Place 16 :=
  #v[2, 6, 3, 10, 7, 0, 4, 13, 1, 11, 12, 5, 9, 14, 15, 8]

/-- Mixes two words of the message into four words of the state. -/
def mix (s : Block) (a b c d : Place) (x y : UInt32) : Block :=
  let s := s.put a (s.word a + s.word b + x)
  let s := s.put d (rotateRight (s.word d ^^^ s.word a) 16)
  let s := s.put c (s.word c + s.word d)
  let s := s.put b (rotateRight (s.word b ^^^ s.word c) 12)
  let s := s.put a (s.word a + s.word b + y)
  let s := s.put d (rotateRight (s.word d ^^^ s.word a) 8)
  let s := s.put c (s.word c + s.word d)
  s.put b (rotateRight (s.word b ^^^ s.word c) 7)

/-- One round: the four columns, then the four diagonals. -/
def round (s message : Block) : Block :=
  let s := mix s 0 4 8 12 message[0] message[1]
  let s := mix s 1 5 9 13 message[2] message[3]
  let s := mix s 2 6 10 14 message[4] message[5]
  let s := mix s 3 7 11 15 message[6] message[7]
  let s := mix s 0 5 10 15 message[8] message[9]
  let s := mix s 1 6 11 12 message[10] message[11]
  let s := mix s 2 7 8 13 message[12] message[13]
  mix s 3 4 9 14 message[14] message[15]

/-- Rounds with the message permuted between them. -/
def rounds : Nat → Block → Block → Block
  | 0, s, _ => s
  | n + 1, s, message => rounds n (round s message) (order.map message.word)

/-- A compression that is still to be made; only the root adds a flag to it. -/
structure Node where
  chain : Chain
  message : Block
  counter : Nat
  size : Nat
  flags : UInt32

/-- Marks the first block of a chunk. -/
def chunkStart : UInt32 := 1

/-- Marks the last block of a chunk. -/
def chunkEnd : UInt32 := 2

/-- Marks an inner node of the tree. -/
def parent : UInt32 := 4

/-- Marks the root of the tree. -/
def root : UInt32 := 8

/-- The chaining value that comes out of a node. -/
def Node.output (node : Node) (extra : UInt32) : Chain :=
  let tail : Vector UInt32 4 :=
    #v[UInt32.ofNat node.counter, UInt32.ofNat (node.counter / UInt32.size), UInt32.ofNat node.size,
      node.flags ||| extra]
  let s := rounds 7 (node.chain ++ start.take 4 ++ tail) node.message
  Vector.ofFn fun (i : Fin 8) => s[i] ^^^ s[i.val + 8]

/-- A block of bytes as words, filled up with zeros. -/
def wordsOf (bytes : List UInt8) : Block :=
  let filled := (bytes ++ List.replicate (64 - bytes.length) 0).toArray
  Vector.ofFn fun i =>
    UInt32.ofNat (littleEndian ((List.range 4).map fun k => filled.getD (4 * i + k) 0))

/-- The last node of a chunk that chains from `chain` through the bytes still to come. -/
def chunkNode (counter : Nat) : Nat → UInt32 → Chain → List UInt8 → Node
  | fuel, mark, chain, bytes =>
      let node (flags : UInt32) (size : Nat) : Node :=
        { chain, message := wordsOf (bytes.take 64), counter, size, flags }
      match fuel with
      | 0 => node (mark ||| chunkEnd) bytes.length
      | fuel + 1 =>
          if bytes.length ≤ 64 then node (mark ||| chunkEnd) bytes.length
          else chunkNode counter fuel 0 ((node mark 64).output 0) (bytes.drop 64)

/-- How many chunks hold `n` bytes. -/
def chunkCount (n : Nat) : Nat :=
  max 1 ((n + 1023) / 1024)

/-- How many of `n > 1` chunks stand on the left: the largest power of two below `n`. -/
def leftCount (n : Nat) : Nat :=
  Nat.pow 2 (n - 1).log2

/-- The node over some bytes whose first chunk has the given number. -/
def treeNode : Nat → Nat → List UInt8 → Node
  | 0, counter, bytes => chunkNode counter 16 chunkStart start bytes
  | fuel + 1, counter, bytes =>
      let count := chunkCount bytes.length
      if count ≤ 1 then chunkNode counter 16 chunkStart start bytes
      else
        -- The left half is full, so the chunks on the right are numbered on from it.
        let left := leftCount count
        let output (counter : Nat) (bytes : List UInt8) : Chain :=
          (treeNode fuel counter bytes).output 0
        { chain := start
          message := output counter (bytes.take (1024 * left)) ++
            output (counter + left) (bytes.drop (1024 * left))
          counter := 0
          size := 64
          flags := parent }

/-- The hash of some bytes as eight words. -/
def hash (bytes : List UInt8) : Chain :=
  (treeNode (chunkCount bytes.length) 0 bytes).output root

end Vivarium.Blake3
