import Vivarium.Descriptor.Bounds

/-!
# Structural changes

A change moves one count of a descriptor and the bounds decide where it ends
up. Layers and kernel move by a signed amount and stop at the ends of the
word; a width is halved, kept or doubled, and halving never reaches zero. A
change of heads or kernel does nothing to a shape that has none.
-/

namespace Vivarium

/-- What happens to a width. -/
inductive WidthScale where
  | half
  | keep
  | double
  deriving DecidableEq, Repr

def largestCount : Nat := UInt32.size - 1

/-- An integer as the nearest count. -/
def saturate (n : Int) : UInt32 :=
  UInt32.ofNat (min largestCount n.toNat)

namespace WidthScale

/-- All scales, in the order in which they are drawn. -/
def all : List WidthScale :=
  [.half, .keep, .double]

def apply : WidthScale → UInt32 → UInt32
  | .half, width => max (width / 2) 1
  | .keep, width => width
  | .double, width => saturate (2 * width.toNat)

end WidthScale

/-- One change of one count. -/
inductive Change where
  | layers (delta : Int)
  | width (scale : WidthScale)
  | heads (count : UInt32)
  | kernel (delta : Int)
  deriving DecidableEq, Repr

namespace Change

/-- A count moved by a signed amount. -/
def shift (n : UInt32) (delta : Int) : UInt32 :=
  saturate (n.toNat + delta)

/-- A descriptor after a change, wherever that leads. -/
def applyFreely (change : Change) (parent : Descriptor) : Descriptor :=
  match change with
  | .layers delta => parent.withLayers (shift parent.layers delta)
  | .width scale => parent.withWidth (scale.apply parent.width)
  | .heads count => parent.withHeads count
  | .kernel delta => parent.withKernel (shift (parent.kernel?.getD 0) delta)

/-- A descriptor after a change, moved into bounds. -/
def apply (change : Change) (bounds : Bounds) (parent : Descriptor) : Except Fault Descriptor :=
  bounds.clamp (change.applyFreely parent)

@[simp] theorem kind_applyFreely (change : Change) (parent : Descriptor) :
    (change.applyFreely parent).kind = parent.kind := by
  cases change <;> simp [applyFreely]

end Change

end Vivarium
