/-!
# Binary interchange formats

A word of a binary format is a sign, an exponent field and a fraction field.
Reading it gives an exact value: a natural significand times a power of two,
or one of the special values. Writing goes the other way for any fraction of
natural numbers, and rounds once, to the nearest word, a half to the even one.

Widening a single to a double is reading followed by writing, and so is
narrowing; the first is exact because the wider format holds every value of
the narrower one, the second rounds once. Both are stated on bits so that what
they compute is visible.

Every inexact step of the library comes down to one question: which natural
number stands for `num / den`? The answer is always the nearest one, and the
only decision left is what happens exactly halfway. Binary formats and fixed
decimals send a half to the even neighbour; the plain decimal form of a number
sends it up. The quotient itself is exact, so nothing is rounded twice.
-/

namespace Vivarium.Number

/-- Where a value exactly halfway between two neighbours goes. -/
inductive Tie where
  | even
  | up
  deriving DecidableEq, Repr

/-- Whether a remainder `rest` of a division by `den` rounds the quotient `whole` up. -/
def Tie.roundsUp (tie : Tie) (whole rest den : Nat) : Bool :=
  match compare (2 * rest) den with
  | .lt => false
  | .gt => true
  | .eq => tie == .up || whole % 2 == 1

/-- The natural number nearest to `num / den`. -/
def roundDiv (tie : Tie) (num den : Nat) : Nat :=
  let whole := num / den
  if tie.roundsUp whole (num % den) den then whole + 1 else whole

/-- The fraction `num / den` divided by `base ^ power`, still as a fraction of natural numbers. -/
def descale (base num den : Nat) (power : Int) : Nat × Nat :=
  if 0 ≤ power then (num, den * Nat.pow base power.toNat)
  else (num * Nat.pow base (-power).toNat, den)

/-- A binary format: the sizes of its fraction and exponent fields. -/
structure Format where
  fraction : Nat
  exponent : Nat
  deriving DecidableEq, Repr

namespace Format

def single : Format := ⟨23, 8⟩

def double : Format := ⟨52, 11⟩

/-- The power of two of the smallest positive value. -/
def least (F : Format) : Int :=
  2 - Nat.pow 2 (F.exponent - 1) - F.fraction

/-- The word of positive infinity, which is also the least word above every finite one. -/
def infinity (F : Format) : Nat :=
  (Nat.pow 2 F.exponent - 1) * Nat.pow 2 F.fraction

/-- The word of the quiet value that is not a number. -/
def notANumber (F : Format) : Nat :=
  F.infinity + Nat.pow 2 (F.fraction - 1)

/-- The weight of the sign bit. -/
def signWeight (F : Format) : Nat :=
  Nat.pow 2 (F.fraction + F.exponent)

/-- The sign bit in place. -/
def signed (F : Format) (negative : Bool) (magnitude : Nat) : Nat :=
  if negative then F.signWeight + magnitude else magnitude

end Format

/-- What a word denotes: a finite value is `± significand * 2 ^ power`. -/
inductive Datum where
  | nan
  | infinite (negative : Bool)
  | finite (negative : Bool) (significand : Nat) (power : Int)
  deriving DecidableEq, Repr

namespace Format

/-- The exact value of a word. -/
def decode (F : Format) (word : Nat) : Datum :=
  let negative := word / F.signWeight % 2 == 1
  let field := word / Nat.pow 2 F.fraction % Nat.pow 2 F.exponent
  let rest := word % Nat.pow 2 F.fraction
  if field = Nat.pow 2 F.exponent - 1 then
    if rest = 0 then .infinite negative else .nan
  else if field = 0 then .finite negative rest F.least
  else .finite negative (Nat.pow 2 F.fraction + rest) (F.least + (field - 1))

/-- The largest power of two not above `num / den`, for a positive fraction. -/
def magnitude (num den : Nat) : Int :=
  let guess : Int := num.log2 - den.log2
  let (a, b) := descale 2 num den guess
  if a < b then guess - 1 else guess

/--
The word nearest to `num / den`, without its sign. A significand that rounding carries past its
field adds one to the exponent field, which is what the carry means; past the largest finite
word stands infinity.
-/
def nearest (F : Format) (num den : Nat) : Nat :=
  if num = 0 then 0
  else
    let power := max (magnitude num den - F.fraction) F.least
    let (a, b) := descale 2 num den power
    min F.infinity ((power - F.least).toNat * Nat.pow 2 F.fraction + roundDiv .even a b)

/-- The word of a value, rounded to the format. -/
def encode (F : Format) : Datum → Nat
  | .nan => F.notANumber
  | .infinite negative => F.signed negative F.infinity
  | .finite negative significand power =>
      let (num, den) := descale 2 significand 1 (-power)
      F.signed negative (F.nearest num den)

end Format

def ofSingle (x : Float32) : Datum :=
  Format.single.decode x.toBits.toNat

def ofDouble (x : Float) : Datum :=
  Format.double.decode x.toBits.toNat

def toSingle (value : Datum) : Float32 :=
  Float32.ofBits (UInt32.ofNat (Format.single.encode value))

def toDouble (value : Datum) : Float :=
  Float.ofBits (UInt64.ofNat (Format.double.encode value))

/-- A single as a double, exactly. -/
def widen (x : Float32) : Float :=
  toDouble (ofSingle x)

/-- A double as the nearest single. -/
def narrow (x : Float) : Float32 :=
  toSingle (ofDouble x)

end Vivarium.Number
