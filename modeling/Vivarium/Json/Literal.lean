import Vivarium.Json.Basic
import Vivarium.Number.Text

/-!
# What a number literal stands for

A literal without point and exponent is an integer when it fits 64 bits, signed
if it is negative; negative zero is not one. Every other literal is a double,
found in one pass: its leading digits are collected while they fit an unsigned
64-bit word, and the word is scaled by one power of ten. The digits that no
longer fit only move the point. Two roundings may add up, so the result is not
always the double nearest to the literal; it is what this format prescribes.

In the other direction a finite value is written with its shortest digits, in
full for moderate exponents and with an exponent outside of them, and always
so that it is not taken for an integer.
-/

namespace Vivarium.Json

open Number

def digitValue (c : Char) : Nat :=
  c.toNat - '0'.toNat

def natOfDigits (digits : List Char) : Nat :=
  digits.foldl (fun n c => 10 * n + digitValue c) 0

/-- One more than the largest 64-bit word. -/
def wordBound : Nat := Nat.pow 2 64

namespace Literal

def ofNat (n : Nat) : Literal :=
  { negative := false, whole := digitsOf n, fraction := [], exponent := none }

/-- Whether the literal has the form of an integer. -/
def integral (l : Literal) : Bool :=
  l.fraction.isEmpty && l.exponent.isNone

/-- The integer the literal denotes, if it is one and fits. -/
def toInt? (l : Literal) : Option Int :=
  let magnitude := natOfDigits l.whole
  if !l.integral then none
  else if l.negative then
    if 0 < magnitude ∧ magnitude ≤ Nat.pow 2 63 then some (-magnitude) else none
  else if magnitude < wordBound then some magnitude
  else none

/-- Collects digits while the word they form fits; the rest is returned. -/
def gather : Nat → List Char → Nat × List Char
  | word, [] => (word, [])
  | word, c :: rest =>
      let next := 10 * word + digitValue c
      if next < wordBound then gather next rest else (word, c :: rest)

/-- The largest power of ten that scales a word in one step. -/
def largestScale : Nat := 308

/-- The power `10 ^ n` as the nearest double. -/
def powerOfTen (n : Nat) : Float :=
  Float.ofScientific 1 false n

/-- The value `10 ^ exponent * word`, by one scaling, or by repeated division far below one. -/
def scale (word : Nat) (exponent : Int) : Option Float :=
  let start := Float.ofNat word
  if 0 ≤ exponent then
    if exponent ≤ largestScale then
      let value := start * powerOfTen exponent.toNat
      if value.isFinite then some value else none
    else if word = 0 then some 0
    else none
  else shrink start (-exponent).toNat 3
where
  /-- Divides by `10 ^ down`; three full steps leave nothing of any word. -/
  shrink (value : Float) (down : Nat) : Nat → Option Float
    | 0 => some 0
    | steps + 1 =>
        if down ≤ largestScale then some (value / powerOfTen down)
        else shrink (value / powerOfTen largestScale) (down - largestScale) steps

/-- The value of a literal that is not an integer, unless it is too large. -/
def scaled (l : Literal) : Option Float := do
  let (word, left) := gather 0 l.whole
  let (word, unread) := gather word l.fraction
  let places := l.fraction.length - unread.length
  let value ← scale word (left.length - places + l.exponent.getD 0)
  return if l.negative then -value else value

/-- The double a literal denotes; integers convert directly. -/
def toDouble? (l : Literal) : Option Float :=
  match l.toInt? with
  | some n => some (toDouble (.finite (n < 0) n.natAbs 0))
  | none => l.scaled

/-- The single a literal denotes; a literal that is no integer is a double first. -/
def toSingle? (l : Literal) : Option Float32 :=
  match l.toInt? with
  | some n => some (toSingle (.finite (n < 0) n.natAbs 0))
  | none => l.scaled.map narrow

/-- Which exponents of the first digit are written in full. -/
structure Range where
  low : Int
  high : Int

/-- Singles are written in full from a millionth to the trillions. -/
def singleRange : Range := ⟨-6, 12⟩

/-- Doubles are written in full from a hundred-thousandth to sixteen digits. -/
def doubleRange : Range := ⟨-5, 15⟩

/-- The literal of a positive decimal. -/
def ofScientific (range : Range) (negative : Bool) (s : Scientific) : Literal :=
  if range.low ≤ s.exponent ∧ s.exponent ≤ range.high then
    let (whole, fraction) := s.positional
    { negative, whole, fraction := if fraction.isEmpty then ['0'] else fraction, exponent := none }
  else
    { negative, whole := s.digits.take 1, fraction := s.digits.drop 1, exponent := some s.exponent }

/-- The literal of a finite value. -/
def ofDatum? (F : Format) (range : Range) : Datum → Option Literal
  | .finite negative 0 _ => some { negative, whole := ['0'], fraction := ['0'], exponent := none }
  | .finite negative significand power =>
      some (ofScientific range negative (shortest F .even significand power))
  | _ => none

end Literal

def nat (n : Nat) : Json :=
  .number (.ofNat n)

/-- A single as a value; one that is not finite is null. -/
def single (x : Float32) : Json :=
  match Literal.ofDatum? .single Literal.singleRange (ofSingle x) with
  | some literal => .number literal
  | none => .null

/-- A double as a value; one that is not finite is null. -/
def double (x : Float) : Json :=
  match Literal.ofDatum? .double Literal.doubleRange (ofDouble x) with
  | some literal => .number literal
  | none => .null

end Vivarium.Json
