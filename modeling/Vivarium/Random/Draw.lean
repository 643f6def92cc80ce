import Vivarium.Fault
import Vivarium.Random.Stream
import Vivarium.Number.Binary

/-!
# Drawing from a source

Every random decision is a draw: it takes words from the source and gives back
a value and the source after those words. A draw can also be refused, because
a range is upside down or a chance is no probability; that is a fault of the
question, and no draw is made up to cover it.

Uniform choice multiplies a word by the size of the range and keeps the high
half. Words whose low half falls into the incomplete part of the range are
passed over, so that every value is equally likely.

The generator passes over words for as long as it takes; here the search is
given up after `patience` of them, so that it ends by its form and not by luck.
At most half of all words are passed over, whatever the range, and hundreds of
them in a row do not come up in its streams, so the generator never returns what
a search that was given up returns. That is zero, a number of every range like
those that are found. So what is proved of all numbers in range is proved of it
too, and nothing that is proved depends on how a number was found.
-/

namespace Vivarium.Random

open Number

/-- A computation that takes words from a source. -/
abbrev Draw := StateT Source (Except Fault)

namespace Draw

def word : Draw UInt32 :=
  modifyGet fun source => (source.word, source.skip 1)

/-- Takes two words. -/
def wide : Draw Nat :=
  modifyGet fun source => (source.wide, source.skip 2)

/-- A chance scaled to 64 bits and cut off. -/
def threshold (chance : Float32) : Nat :=
  match ofSingle chance with
  | .finite _ significand power =>
      let (num, den) := descale 2 significand 1 (-(power + 64))
      num / den
  | _ => 0

/-- True with the given chance. Certainty takes no words, impossibility does. -/
def chance (p : Float32) : Draw Bool := do
  if p == 1 then return true
  else if 0 ≤ p && p < 1 then return (← wide) < threshold p
  else throw .improbable

/-- The largest low half that a range of `size` accepts. -/
def zone (size : Nat) : Nat :=
  size * Nat.pow 2 (31 - size.log2) - 1

/-- How many words a uniform choice may pass over; no search of the generator takes so many. -/
def patience : Nat := 256

/-- A number below `size`, which is positive and fits a word. -/
def below (size : Nat) : Nat → Draw UInt32
  -- Where a search is given up; zero is below every size.
  | 0 => return 0
  | tries + 1 => do
      let product := (← word).toNat * size
      if product % UInt32.size ≤ zone size then return UInt32.ofNat (product / UInt32.size)
      else below size tries

/-- A number between two others, both included. -/
def between (low high : UInt32) : Draw UInt32 := do
  if high < low then throw .invertedRange
  let size := (high - low).toNat + 1
  -- The range of all words has a size that is no word.
  if size = UInt32.size then word
  else return low + (← below size patience)

/-- One of the items, if there are any. -/
def choose (items : List α) : Draw (Option α) := do
  if items.isEmpty then return none
  let index ← between 0 (UInt32.ofNat (items.length - 1))
  return items[index.toNat]?

end Draw

end Vivarium.Random
