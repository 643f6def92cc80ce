/-!
# Faults

A fault is a question without an answer: a range that is upside down, a chance
that is no probability, more room than one block of memory can have, a count
that does not fit its word, a position beyond the last item. No answer is made
up to cover it, and whoever asked gets none.

Room is asked for in one block, before anything is put into it. A block has at
most as many bytes as the largest signed word of 64 bits says. That a block
within this bound is to be had is taken for granted: the machine may still have
too little memory for it, which is no answer of the program's.
-/

namespace Vivarium

/-- Why a question has no answer. -/
inductive Fault where
  | invertedRange
  | improbable
  | oversized
  | overflow
  | outOfReach
  deriving DecidableEq, Repr

def Fault.message : Fault → String
  | .invertedRange => "range is upside down"
  | .improbable => "chance is no probability"
  | .oversized => "capacity overflow"
  | .overflow => "count does not fit its word"
  | .outOfReach => "position is out of reach"

/-- The bytes that one block of memory has at most. -/
def largestBlock : Nat := Nat.pow 2 63 - 1

/-- Sets room aside for a number of items of `size` bytes each. -/
def setAside (size count : Nat) : Except Fault Unit :=
  if count * size ≤ largestBlock then .ok () else .error .oversized

/-- A number as a count, which must fit a word of 32 bits. -/
def fit (n : Int) : Except Fault UInt32 :=
  if 0 ≤ n ∧ n < UInt32.size then .ok (UInt32.ofNat n.toNat) else .error .overflow

/-- The item at a position, which must be there. -/
def itemAt (items : List α) (position : Nat) : Except Fault α :=
  match items[position]? with
  | some item => .ok item
  | none => .error .outOfReach

end Vivarium
