import Vivarium.Number.Single

/-!
# Orders on singles

The comparison of the number format leaves values that are not numbers
incomparable and takes the two zeros for one. Ranking needs a total order, so
ranks compare a key instead: the word itself for a positive sign, and for a
negative one as far below zero as its magnitude goes. Any two words differ in
it, those that are not numbers included: they stand above infinity or below
negative infinity, by their sign. Where the numeric order decides, the key
agrees with it.
-/

namespace Vivarium.Number

/-- The rank of a word among all words: negative below positive, each by magnitude. -/
def rank (x : Single) : Int :=
  let word := x.word.toNat
  if word < Format.single.signWeight then word
  else Format.single.signWeight - 1 - word

/-- The value `x` moved to the nearer end of `[low, high]` if it lies outside; no bound moves a
NaN. -/
def clamp (low high x : Float32) : Float32 :=
  let raised := if x < low then low else x
  if high < raised then high else raised

/-- The larger of two values; a value that is not a number yields to the other. -/
def larger (x y : Float32) : Float32 :=
  if x.isNaN then y
  else if y.isNaN then x
  else if x < y then y else x

/-- The smaller of two values; a value that is not a number yields to the other. -/
def smaller (x y : Float32) : Float32 :=
  if x.isNaN then y
  else if y.isNaN then x
  else if y < x then y else x

/-- Whether `x` is a number of the closed unit interval. -/
def inUnit (x : Float32) : Bool :=
  0 ≤ x && x ≤ 1

/--
The sum from the left, starting at negative zero, which adds to every value without changing it.
-/
def sum (xs : List Float32) : Float32 :=
  xs.foldl (· + ·) (-0.0)

/-- The same sum in doubles. -/
def sumDouble (xs : List Float) : Float :=
  xs.foldl (· + ·) (-0.0)

end Vivarium.Number
