import Vivarium.Number.Binary

/-!
# Singles and doubles as they are kept

There are many words that are not numbers: of either sign, with any fraction but
zero. `Float32` and `Float` know one of them, and most of the library needs no
more, since arithmetic, comparisons and texts take all of them for the same.
What is ranked by its bits does need more, for such a word stands above or below
all numbers by its sign, and among its like by its fraction. So whatever is
ranked is kept as a word, and so is whatever it is computed from.

Arithmetic on words is that of the values, wherever that leads to a number. An
operand that is not a number is the result, made quiet, and of two such the
first. Where two numbers have no result, the result is the quiet word with the
sign bit set. That is how processors commonly do it; the standard leaves the word
open, and no proof looks at which one it is.
-/

namespace Vivarium.Number

namespace Format

/-- A word that is not a number, made quiet: with the highest bit of its fraction set. -/
def quiet (F : Format) (word : Nat) : Nat :=
  word ||| Nat.pow 2 (F.fraction - 1)

/-- The word of an operation that has no result. -/
def indefinite (F : Format) : Nat :=
  F.signed true F.notANumber

/-- A word of `F` that is not a number as one of `G`: its sign, and of its fraction what there is
room for. -/
def recast (F G : Format) (word : Nat) : Nat :=
  let fraction := word % Nat.pow 2 F.fraction * Nat.pow 2 G.fraction / Nat.pow 2 F.fraction
  G.quiet (G.signed (F.signWeight ≤ word) (G.infinity + fraction))

end Format

/-- A single by its word. -/
structure Single where
  word : UInt32
  deriving DecidableEq, Repr

/-- A double by its word. -/
structure Double where
  word : UInt64
  deriving DecidableEq, Repr

namespace Single

def value (x : Single) : Float32 :=
  .ofBits x.word

def of (x : Float32) : Single :=
  ⟨x.toBits⟩

instance : Coe Single Float32 := ⟨value⟩

instance : Coe Float32 Single := ⟨of⟩

instance (n : Nat) : OfNat Single n := ⟨of (.ofNat n)⟩

instance : OfScientific Single := ⟨fun m s e => of (.ofScientific m s e)⟩

def widen (x : Single) : Double :=
  if x.value.isNaN then ⟨.ofNat (Format.recast .single .double x.word.toNat)⟩
  else ⟨(Number.widen x.value).toBits⟩

end Single

namespace Double

def value (x : Double) : Float :=
  .ofBits x.word

def of (x : Float) : Double :=
  ⟨x.toBits⟩

instance : Coe Double Float := ⟨value⟩

instance : Coe Float Double := ⟨of⟩

def quiet (x : Double) : Double :=
  ⟨.ofNat (Format.double.quiet x.word.toNat)⟩

/-- An operation on words, given what it does with values. -/
def lift (operation : Float → Float → Float) (x y : Double) : Double :=
  if x.value.isNaN then x.quiet
  else if y.value.isNaN then y.quiet
  else
    let result := operation x.value y.value
    if result.isNaN then ⟨.ofNat Format.double.indefinite⟩ else of result

instance : Add Double := ⟨lift (· + ·)⟩

instance : Mul Double := ⟨lift (· * ·)⟩

instance : Div Double := ⟨lift (· / ·)⟩

def ofCount (n : Nat) : Double :=
  of (.ofNat n)

def narrow (x : Double) : Single :=
  if x.value.isNaN then ⟨.ofNat (Format.recast .double .single x.word.toNat)⟩
  else .of (Number.narrow x.value)

end Double

end Vivarium.Number
