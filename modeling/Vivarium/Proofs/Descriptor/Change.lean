import Vivarium.Proofs.Descriptor.Bounds
import Vivarium.Descriptor.Change

/-!
# How far one change moves a descriptor

A change is applied without regard to the bounds, stops at the ends of the
word, and is then moved into bounds. None of the three steps moves a count
further than the change itself asks for, and the last of them leaves alone
every count that the change did not touch. That is so only because the parent
lies in bounds: a parent outside would be moved in every count that is out of
range, and its child would differ from it in several.

The arithmetic is done once, for a count that is carried to any integer. What
it comes to after saturation and projection is the allowed count nearest to
that integer, so the ends of the word never show.
-/

namespace Vivarium

/-! ## Any integer, brought back into a range -/

namespace Span

variable {span : Span}

theorem toNat_saturate (n : Int) : (saturate n).toNat = min largestCount n.toNat := by
  have hlargest : largestCount < UInt32.size := by decide
  rw [saturate, UInt32.toNat_ofNat_of_lt' (by omega)]

theorem toNat_project_saturate (h : span.low ≤ span.high) (n : Int) :
    (span.project (saturate n)).toNat = span.nearest n.toNat := by
  have hhigh : span.high.toNat ≤ largestCount := Nat.le_of_lt_succ span.high.toNat_lt
  rw [toNat_project h, toNat_saturate, nearest, nearest]
  omega

theorem distance_project_shift (h : span.low ≤ span.high) {n : UInt32} (hn : span.project n = n)
    (delta : Int) :
    Bounds.distance (span.project (Change.shift n delta)) n ≤ delta.natAbs := by
  have hholds : span.holds n = true := hn ▸ (project_closest h n).holds
  simp only [holds_iff, UInt32.le_iff_toNat_le] at hholds
  rw [Bounds.distance, Change.shift, toNat_project_saturate h, nearest]
  omega

end Span

namespace WidthScale

/-- What a scale makes of a width, however large. -/
def times : WidthScale → Nat → Nat
  | .half, width => max (width / 2) 1
  | .keep, width => width
  | .double, width => 2 * width

theorem toNat_project_apply {span : Span} (h : span.low ≤ span.high) (scale : WidthScale)
    (width : UInt32) :
    (span.project (scale.apply width)).toNat = span.nearest (scale.times width.toNat) := by
  cases scale with
  | half =>
      have hhalf : (half.apply width).toNat = half.times width.toNat := by
        rw [apply, times, UInt32.toNat_max, UInt32.toNat_div]
        rfl
      rw [Span.toNat_project h, hhalf]
  | keep => exact Span.toNat_project h width
  | double =>
      have hdouble : double.apply width = saturate (2 * width.toNat : Nat) := rfl
      rw [hdouble, Span.toNat_project_saturate h, Int.toNat_natCast]
      rfl

end WidthScale

/-! ## One count and no other

Projecting a descriptor that lies in bounds, but for one count, projects that
count. -/

namespace Bounds

variable {bounds : Bounds} {parent : Descriptor}

theorem project_withLayers (h : bounds.project parent = parent) (n : UInt32) :
    bounds.project (parent.withLayers n) = parent.withLayers (bounds.layers.project n) := by
  cases parent <;> simp_all [project, Descriptor.withLayers]

theorem project_withWidth (h : bounds.project parent = parent) (n : UInt32) :
    bounds.project (parent.withWidth n) = parent.withWidth (bounds.width.project n) := by
  cases parent <;> simp_all [project, Descriptor.withWidth]

theorem project_withHeads (h : bounds.project parent = parent) (n : UInt32) :
    bounds.project (parent.withHeads n) = parent.withHeads (nearestHeads n bounds.heads) := by
  cases parent <;> simp_all [project, Descriptor.withHeads]

theorem project_withKernel (h : bounds.project parent = parent) (n : UInt32) :
    bounds.project (parent.withKernel n) = parent.withKernel (bounds.kernel.project n) := by
  cases parent <;> simp_all [project, Descriptor.withKernel]

theorem project_layers (h : bounds.project parent = parent) :
    bounds.layers.project parent.layers = parent.layers := by
  cases parent <;> simp_all [project, Descriptor.layers]

theorem project_kernel (h : bounds.project parent = parent) {old : UInt32}
    (hold : parent.kernel? = some old) : bounds.kernel.project old = old := by
  cases parent <;> simp_all [project, Descriptor.kernel?]

end Bounds

/-- Whether a change is one that is drawn for a parent. -/
inductive Change.Fits (bounds : Bounds) (parent : Descriptor) : Change → Prop where
  | layers {delta : Int} (near : delta.natAbs ≤ 1) : Fits bounds parent (.layers delta)
  | width (scale : WidthScale) : Fits bounds parent (.width scale)
  | heads {count old : UInt32} (has : parent.heads? = some old) (allowed : count ∈ bounds.heads) :
      Fits bounds parent (.heads count)
  | kernel {delta : Int} {old : UInt32} (has : parent.kernel? = some old)
      (near : delta.natAbs ≤ 2) : Fits bounds parent (.kernel delta)

namespace Descriptor

/-- Whether a descriptor is the parent with one count moved as far as one change may move it. -/
inductive Varied (bounds : Bounds) (parent : Descriptor) : Descriptor → Prop where
  | layers {n : UInt32} (near : Bounds.distance n parent.layers ≤ 1) :
      Varied bounds parent (parent.withLayers n)
  | width {n : UInt32} (scale : WidthScale)
      (scaled : n.toNat = bounds.width.nearest (scale.times parent.width.toNat)) :
      Varied bounds parent (parent.withWidth n)
  | heads {n old : UInt32} (has : parent.heads? = some old) (allowed : n ∈ bounds.heads) :
      Varied bounds parent (parent.withHeads n)
  | kernel {n old : UInt32} (has : parent.kernel? = some old)
      (near : Bounds.distance n old ≤ 2) : Varied bounds parent (parent.withKernel n)

/-- The four counts, of which a shape may lack some. -/
def counts (d : Descriptor) : List (Option UInt32) :=
  [some d.layers, some d.width, d.heads?, d.kernel?]

/-- In how many of the four counts two descriptors differ. -/
def differences (a b : Descriptor) : Nat :=
  (a.counts.zip b.counts).countP fun pair => pair.1 != pair.2

variable {bounds : Bounds} {parent d : Descriptor}

theorem Varied.kind_eq (h : parent.Varied bounds d) : d.kind = parent.kind := by
  cases h <;> simp

theorem Varied.differences_le (h : parent.Varied bounds d) : parent.differences d ≤ 1 := by
  cases h <;> cases parent <;>
    simp [differences, counts, withLayers, withWidth, withHeads, withKernel, Descriptor.layers,
      Descriptor.width, heads?, kernel?, List.countP_cons] <;> split <;> omega

theorem varied_of_fits (h : bounds.Sound) (hparent : bounds.project parent = parent)
    {change : Change} (fits : change.Fits bounds parent) :
    parent.Varied bounds (bounds.project (change.applyFreely parent)) := by
  cases fits with
  | @layers delta near =>
      rw [Change.applyFreely, Bounds.project_withLayers hparent]
      have hmoved :=
        Span.distance_project_shift h.layers.ordered (Bounds.project_layers hparent) delta
      exact .layers (Nat.le_trans hmoved near)
  | width scale =>
      rw [Change.applyFreely, Bounds.project_withWidth hparent]
      exact .width scale (WidthScale.toNat_project_apply h.width.ordered scale parent.width)
  | @heads count old has allowed =>
      rw [Change.applyFreely, Bounds.project_withHeads hparent, Bounds.nearestHeads_of_mem allowed]
      exact .heads has allowed
  | @kernel delta old has near =>
      rw [Change.applyFreely, Bounds.project_withKernel hparent, has, Option.getD_some]
      have hmoved :=
        Span.distance_project_shift h.kernel.ordered (Bounds.project_kernel hparent has) delta
      exact .kernel has (Nat.le_trans hmoved near)

end Descriptor

end Vivarium
