import Vivarium.Proofs.Descriptor.Change

/-!
# Changes in exact integers

A change is carried out in words, which stop at their ends, and a halved width
stops at one. Neither shows in the end: a range that is accepted begins at one or
above and ends within the words, so whatever was cut off lies outside the range
on the same side, and the nearest number of the range is that of the exact
integer.

Nothing else moves either. What the parent has of the other counts is allowed
and stays, and a change of a count that the parent does not have changes nothing.
This again takes a parent in bounds.
-/

namespace Vivarium

/-- What a scale makes of a width in whole numbers, of which there are no halves. -/
def WidthScale.exactly : WidthScale → Nat → Nat
  | .half, width => width / 2
  | .keep, width => width
  | .double, width => 2 * width

/-- Halving stops at one, and a range that begins at one or above does not tell. -/
theorem Span.nearest_times {span : Span} (h : span.Sound) (scale : WidthScale) (width : Nat) :
    span.nearest (scale.times width) = span.nearest (scale.exactly width) := by
  cases scale with
  | half =>
      have hpositive : 0 < span.low.toNat :=
        Nat.pos_of_ne_zero fun hzero => h.positive (UInt32.toNat_inj.mp hzero)
      have hordered : span.low.toNat ≤ span.high.toNat := h.ordered
      unfold nearest
      simp only [WidthScale.times, WidthScale.exactly]
      omega
  | keep => rfl
  | double => rfl

/-- Bounds that reach to the ends of the words, with heads in no order. -/
def Bounds.vast : Bounds where
  layers := ⟨1, 4294967295⟩
  width := ⟨1, 4294967295⟩
  heads := [9, 3, 9, 5]

namespace Change

/-- The count that a change is about. -/
def subject : Change → Count
  | .layers _ => .layers
  | .width _ => .width
  | .heads _ => .heads
  | .kernel _ => .kernel

/-- What a change makes of the count that it is about, in exact integers. -/
def exactly : Change → Nat → Int
  | .layers delta, n => n + delta
  | .width scale, n => scale.exactly n
  | .heads count, _ => count.toNat
  | .kernel delta, n => n + delta

/-- What a change makes of the count that it is about, in words. -/
def inWords : Change → UInt32 → UInt32
  | .layers delta, n => shift n delta
  | .width scale, n => scale.apply n
  | .heads count, _ => count
  | .kernel delta, n => shift n delta

variable {bounds : Bounds} {change : Change} {parent : Descriptor} {count : Count} {n : UInt32}

theorem count?_applyFreely_subject (change : Change) (parent : Descriptor) :
    (change.applyFreely parent).count? change.subject =
      (parent.count? change.subject).map change.inWords := by
  cases change <;> cases parent <;> rfl

theorem count?_applyFreely_of_ne (hne : count ≠ change.subject) :
    (change.applyFreely parent).count? count = parent.count? count := by
  cases change <;> cases parent <;> cases count <;> first | rfl | exact absurd rfl hne

/-- Moving the words into bounds moves the exact integer into bounds. -/
theorem inWords_closest (h : bounds.Sound) (change : Change) (n : UInt32) :
    Closest (bounds.Allows change.subject) (change.exactly n.toNat)
      (bounds.move change.subject (change.inWords n)) := by
  cases change with
  | layers delta =>
      exact Span.closest_of_toNat h.layers.ordered
        (Span.toNat_project_saturate h.layers.ordered (n.toNat + delta))
  | width scale =>
      refine Span.closest_of_toNat h.width.ordered ?_
      have hmoved := WidthScale.toNat_project_apply h.width.ordered scale n
      rw [Span.nearest_times h.width] at hmoved
      exact hmoved
  | heads count => exact Bounds.nearestHeads_closest h.heads_ne_nil count
  | kernel delta =>
      exact Span.closest_of_toNat h.kernel.ordered
        (Span.toNat_project_saturate h.kernel.ordered (n.toNat + delta))

theorem apply_eq_ok (h : bounds.Proper) (change : Change) (parent : Descriptor) :
    change.apply bounds parent = .ok (bounds.project (change.applyFreely parent)) :=
  Bounds.clamp_eq_ok h _

theorem count?_apply_of_ne (h : bounds.Proper) (hparent : bounds.Admits parent)
    (hne : count ≠ change.subject) :
    (bounds.project (change.applyFreely parent)).count? count = parent.count? count := by
  rw [Bounds.count?_project, count?_applyFreely_of_ne hne, ← Bounds.count?_project,
    Bounds.project_of_admits h hparent]

theorem count?_apply_subject (hn : parent.count? change.subject = some n) :
    (bounds.project (change.applyFreely parent)).count? change.subject =
      some (bounds.move change.subject (change.inWords n)) := by
  rw [Bounds.count?_project, count?_applyFreely_subject, hn, Option.map_some, Option.map_some]

theorem apply_of_lacking (h : bounds.Proper) (hparent : bounds.Admits parent)
    (lacking : parent.count? change.subject = none) :
    bounds.project (change.applyFreely parent) = parent := by
  refine Descriptor.eq_of_counts (by simp) fun count => ?_
  by_cases hsubject : count = change.subject
  · rw [hsubject, Bounds.count?_project, count?_applyFreely_subject, lacking]
    rfl
  · exact count?_apply_of_ne h hparent hsubject

theorem apply_exact (accepted : bounds.check = .ok ())
    (inside : bounds.contains parent = .ok true) (change : Change) :
    ∃ d, change.apply bounds parent = .ok d ∧ d.kind = parent.kind ∧
      bounds.contains d = .ok true ∧
      (∀ count, count ≠ change.subject → d.count? count = parent.count? count) ∧
      (parent.count? change.subject = none → d = parent) ∧
      ∀ n, parent.count? change.subject = some n → ∃ m, d.count? change.subject = some m ∧
        Closest (bounds.Allows change.subject) (change.exactly n.toNat) m := by
  have sound := Bounds.sound_of_check accepted
  have hparent := (Bounds.holds_iff_admits sound.proper).mp inside
  refine ⟨_, apply_eq_ok sound.proper change parent, by simp,
    Bounds.contains_project sound.proper _, fun count => count?_apply_of_ne sound.proper hparent,
    apply_of_lacking sound.proper hparent, fun n hn => ?_⟩
  exact ⟨_, count?_apply_subject hn, inWords_closest sound change n⟩

/-- The widest cell doubles its width to what no word holds, and four heads lie between two. -/
theorem apply_exact_vast :
    Bounds.vast.check = .ok () ∧
    Bounds.vast.contains (.attention 2 4294967295 9) = .ok true ∧
    (∃ d, (Change.width .double).apply .vast (.attention 2 4294967295 9) = .ok d ∧
      ∃ m, d.count? .width = some m ∧ Closest (Bounds.vast.Allows .width) 8589934590 m) ∧
    ∃ d, (Change.heads 4).apply .vast (.attention 2 4294967295 9) = .ok d ∧
      ∃ m, d.count? .heads = some m ∧ Closest (· ∈ [9, 3, 9, 5]) 4 m := by
  have accepted : Bounds.vast.check = .ok () := by rfl
  have inside : Bounds.vast.contains (.attention 2 4294967295 9) = .ok true := by rfl
  obtain ⟨doubled, hdoubled, -, -, -, -, hwidth⟩ := apply_exact accepted inside (.width .double)
  obtain ⟨snapped, hsnapped, -, -, -, -, hheads⟩ := apply_exact accepted inside (.heads 4)
  exact ⟨accepted, inside, ⟨doubled, hdoubled, hwidth 4294967295 rfl⟩,
    ⟨snapped, hsnapped, hheads 9 rfl⟩⟩

end Change

end Vivarium
