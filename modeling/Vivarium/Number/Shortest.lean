import Vivarium.Number.Binary

/-!
# The fewest digits that read back

The words of a format cut the real line into intervals: everything between the
midpoints to the two neighbours rounds to the word in the middle, and a
midpoint itself does so when the significand is even. A decimal stands for the
word exactly when it lies in that interval.

For a number of digits the decimals form a grid, and if any point of the grid
lies in the interval then so does one of the two grid points next to the exact
value. So the search asks, for one digit, two digits and so on, whether either
of those two lies inside; the first grid with a hit wins, and of two hits the
nearer. Everything is compared as fractions of natural numbers. The interval
is wide enough that seventeen digits always suffice for the formats here.
-/

namespace Vivarium.Number

/-- Decimal digits `d₁d₂…dₙ` standing for `d₁.d₂…dₙ * 10 ^ exponent`. -/
structure Scientific where
  digits : List Char
  exponent : Int
  deriving DecidableEq, Repr

/-- The written digits of a natural number. -/
def digitsOf (n : Nat) : List Char :=
  Nat.toDigits 10 n

/-- The decimal exponent of the first digit of a positive fraction `num / den`. -/
def decimalExponent (num den : Nat) : Int :=
  if den ≤ num then (digitsOf (num / den)).length - 1
  else
    let places := (digitsOf (den / num)).length - 1
    if den ≤ num * Nat.pow 10 places then -places else -(places + 1)

/-- Drops the zeros that a digit sequence ends in. -/
def trimZeros (digits : List Char) : List Char :=
  (digits.reverse.dropWhile (· == '0')).reverse

/-- An interval of positive fractions over one denominator, around a value. -/
structure Neighbourhood where
  low : Nat
  value : Nat
  high : Nat
  den : Nat
  closed : Bool
  deriving Repr

namespace Neighbourhood

/--
The fractions that round to `significand * 2 ^ power`. The gap below a power of two is half the
gap above it, except at the smallest exponent.
-/
def ofBinary (F : Format) (significand : Nat) (power : Int) : Neighbourhood :=
  -- Everything is counted in quarters, so that the midpoints are whole.
  let narrowBelow := significand == Nat.pow 2 F.fraction && F.least < power
  let (scale, den) := descale 2 1 4 (-power)
  { low := (4 * significand - if narrowBelow then 1 else 2) * scale
    value := 4 * significand * scale
    high := (4 * significand + 2) * scale
    den
    closed := significand % 2 == 0 }

/-- Whether `point * num / den` of the grid lies in the neighbourhood. -/
def holds (hood : Neighbourhood) (point num den : Nat) : Bool :=
  let left := point * num * hood.den
  if hood.closed then hood.low * den ≤ left && left ≤ hood.high * den
  else hood.low * den < left && left < hood.high * den

/-- The point of the grid of multiples of `10 ^ unit` that stands for the value, if one does. -/
def hit (hood : Neighbourhood) (tie : Tie) (unit : Int) : Option Nat :=
  let (den, num) := descale 10 1 1 unit
  let (top, bottom) := (hood.value * den, hood.den * num)
  let below := top / bottom
  let nearer := roundDiv tie top bottom
  let farther := if nearer = below then below + 1 else below
  if hood.holds nearer num den then some nearer
  else if hood.holds farther num den then some farther
  else none

/-- Tries grids of `count`, `count + 1`, … digits, `fuel` of them. -/
def search (hood : Neighbourhood) (tie : Tie) (exponent : Int) : Nat → Nat → Nat × Int
  | 0, count => (hood.value / hood.den, exponent + 1 - count)
  | fuel + 1, count =>
      let unit := exponent + 1 - count
      match hood.hit tie unit with
      | some point => (point, unit)
      | none => search hood tie exponent fuel (count + 1)

end Neighbourhood

/-- The most digits a double needs. -/
def mostDigits : Nat := 17

/-- The shortest decimal that rounds to the positive value `significand * 2 ^ power`. -/
def shortest (F : Format) (tie : Tie) (significand : Nat) (power : Int) : Scientific :=
  let hood := Neighbourhood.ofBinary F significand power
  let first := decimalExponent hood.value hood.den
  let (point, unit) := hood.search tie first mostDigits 1
  let digits := digitsOf point
  { digits := trimZeros digits, exponent := unit + digits.length - 1 }

end Vivarium.Number
