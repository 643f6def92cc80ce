import Vivarium.Descriptor.Basic
import Vivarium.Random.Draw

/-!
# Bounds on descriptors

Bounds are a box: a range for layers, width and kernel, and a set of allowed
head counts, given as a list in any order. Projecting a descriptor into the
box moves each count to the nearest allowed one; among two head counts equally
near the smaller is taken, and with no head count allowed the count stays.

A range may be given upside down. Nothing lies in it and nothing can be
projected into it, so clamping to such bounds is a fault; only the ranges that
the architecture uses are looked at.
-/

namespace Vivarium

/-- The counts from `low` to `high`, both included. -/
structure Span where
  low : UInt32
  high : UInt32
  deriving DecidableEq, Repr

namespace Span

/-- Whether the range is the right way up. -/
def ordered (span : Span) : Bool :=
  span.low ≤ span.high

/-- Whether the range holds a count. -/
def holds (span : Span) (n : UInt32) : Bool :=
  span.low ≤ n && n ≤ span.high

/-- The count of the range nearest to `n`. -/
def project (span : Span) (n : UInt32) : UInt32 :=
  if n < span.low then span.low
  else if span.high < n then span.high
  else n

end Span

/-- Bounds on every structural parameter. -/
structure Bounds where
  layers : Span := ⟨1, 12⟩
  width : Span := ⟨16, 1024⟩
  heads : List UInt32 := [1, 2, 4, 8, 16]
  kernel : Span := ⟨3, 9⟩
  kinds : List Kind := Kind.all
  deriving DecidableEq, Repr

namespace Bounds

def distance (a b : UInt32) : Nat :=
  (a.toNat - b.toNat) + (b.toNat - a.toNat)

/-- Whether `a` comes before `b` as a stand-in for `n`: nearer, or as near and smaller. -/
def closer (n a b : UInt32) : Bool :=
  distance a n < distance b n || (distance a n == distance b n && a < b)

/-- The allowed head count nearest to `n`, or `n` itself where none is allowed. -/
def nearestHeads (n : UInt32) : List UInt32 → UInt32
  | [] => n
  | first :: rest => rest.foldl (fun best h => if closer n h best then h else best) first

/-- A descriptor with every count moved to the nearest one allowed. -/
def project (bounds : Bounds) : Descriptor → Descriptor
  | .attention layers width heads =>
      .attention (bounds.layers.project layers) (bounds.width.project width)
        (nearestHeads heads bounds.heads)
  | .recurrent layers width =>
      .recurrent (bounds.layers.project layers) (bounds.width.project width)
  | .convolutional layers width kernel =>
      .convolutional (bounds.layers.project layers) (bounds.width.project width)
        (bounds.kernel.project kernel)

/-- Whether the ranges that an architecture uses are the right way up. -/
def orderedFor (bounds : Bounds) (kind : Kind) : Bool :=
  bounds.layers.ordered && bounds.width.ordered &&
    (kind != .convolutional || bounds.kernel.ordered)

/-- A descriptor moved into bounds. -/
def clamp (bounds : Bounds) (d : Descriptor) : Except Fault Descriptor :=
  if bounds.orderedFor d.kind then .ok (bounds.project d) else .error .invertedRange

/-- Whether a descriptor lies in bounds: clamping does not move it. -/
def contains (bounds : Bounds) (d : Descriptor) : Except Fault Bool :=
  (bounds.clamp d).map (· == d)

@[simp] theorem kind_project (bounds : Bounds) (d : Descriptor) :
    (bounds.project d).kind = d.kind := by
  cases d <;> rfl

end Bounds

end Vivarium
