import Vivarium.Number.Shortest

/-!
# Numbers as plain text

Three ways to write a number without an exponent. A natural number is its
digits. A binary value is its shortest decimal written out in full, however
many zeros that takes, with no point when it is whole. Fixed places round the
exact binary value, a half to the even neighbour, and keep every place.
-/

namespace Vivarium.Number

/-- The digits of a decimal written in full: those before the point and those after it. -/
def Scientific.positional (s : Scientific) : List Char × List Char :=
  if s.exponent < 0 then
    (['0'], List.replicate (-s.exponent - 1).toNat '0' ++ s.digits)
  else
    let whole := s.exponent.toNat + 1
    (s.digits.take whole ++ List.replicate (whole - s.digits.length) '0', s.digits.drop whole)

/-- How text writes the sign and the values that have no digits. -/
def signText (negative : Bool) : String :=
  if negative then "-" else ""

/-- The plain decimal of a value: shortest digits, halves up, never an exponent. -/
def plain (F : Format) : Datum → String
  | .nan => "NaN"
  | .infinite negative => signText negative ++ "inf"
  | .finite negative 0 _ => signText negative ++ "0"
  | .finite negative significand power =>
      let (whole, places) := (shortest F .up significand power).positional
      signText negative ++ String.ofList whole ++
        (if places.isEmpty then "" else "." ++ String.ofList places)

def plainSingle (x : Float32) : String :=
  plain .single (ofSingle x)

def plainDouble (x : Float) : String :=
  plain .double (ofDouble x)

/-- A natural number on at least `width` digits. -/
def padded (width n : Nat) : String :=
  let digits := digitsOf n
  String.ofList (List.replicate (width - digits.length) '0' ++ digits)

/-- A value with exactly `places` decimals. -/
def fixed (places : Nat) : Datum → String
  | .nan => "NaN"
  | .infinite negative => signText negative ++ "inf"
  | .finite negative significand power =>
      let (num, den) := descale 2 (significand * Nat.pow 10 places) 1 (-power)
      let scaled := roundDiv .even num den
      signText negative ++ toString (scaled / Nat.pow 10 places) ++ "." ++
        padded places (scaled % Nat.pow 10 places)

/-- A single with three decimals. -/
def thousandths (x : Float32) : String :=
  fixed 3 (ofSingle x)

end Vivarium.Number
