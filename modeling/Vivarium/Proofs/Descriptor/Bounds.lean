import Vivarium.Proofs.Config.Validity
import Vivarium.Proofs.Descriptor.Nearest

/-!
# Clamping to bounds

Bounds are a box with one side for each count of a descriptor, and clamping is
the projection onto that box: every count goes to the nearest allowed one, and
where it goes depends on no other count. So what there is to say of clamping is
said of one count at a time, and carried over to descriptors by the fact that a
descriptor is its kind and its counts.

Whether a descriptor lies in bounds is found out by clamping it and looking
whether it moved. That this comes to every count being allowed is a theorem here,
and the box itself is defined without any clamping.

All of this needs the ranges to be the right way up and some head count to be
allowed, and no more; counts may be zero.
-/

namespace Vivarium

/-- Whether the ranges are the right way up and some head count is allowed. -/
structure Bounds.Proper (bounds : Bounds) : Prop where
  layers : bounds.layers.low ≤ bounds.layers.high
  width : bounds.width.low ≤ bounds.width.high
  kernel : bounds.kernel.low ≤ bounds.kernel.high
  heads_ne_nil : bounds.heads ≠ []

theorem Bounds.Sound.proper {bounds : Bounds} (h : bounds.Sound) : bounds.Proper :=
  ⟨h.layers.ordered, h.width.ordered, h.kernel.ordered, h.heads_ne_nil⟩

/-! ## One count at a time -/

/-- The counts that descriptors have. -/
inductive Count where
  | layers
  | width
  | heads
  | kernel
  deriving DecidableEq, Repr

namespace Descriptor

/-- A count of a descriptor, if its shape has it. -/
def count? (d : Descriptor) : Count → Option UInt32
  | .layers => some d.layers
  | .width => some d.width
  | .heads => d.heads?
  | .kernel => d.kernel?

theorem eq_of_counts {a b : Descriptor} (kind : a.kind = b.kind)
    (counts : ∀ count, a.count? count = b.count? count) : a = b := by
  have hlayers : some a.layers = some b.layers := counts .layers
  have hwidth : some a.width = some b.width := counts .width
  have hheads : a.heads? = b.heads? := counts .heads
  have hkernel : a.kernel? = b.kernel? := counts .kernel
  cases a <;> cases b <;>
    simp_all [Descriptor.kind, Descriptor.layers, Descriptor.width, heads?, kernel?]

end Descriptor

namespace Bounds

/-- Whether a number is allowed as a certain count. -/
def Allows (bounds : Bounds) : Count → UInt32 → Prop
  | .layers => (bounds.layers.holds · = true)
  | .width => (bounds.width.holds · = true)
  | .heads => (· ∈ bounds.heads)
  | .kernel => (bounds.kernel.holds · = true)

/-- Whether every count that a descriptor has is allowed. -/
def Admits (bounds : Bounds) (d : Descriptor) : Prop :=
  ∀ count n, d.count? count = some n → bounds.Allows count n

/-- Where projection takes a number that is a certain count. -/
def move (bounds : Bounds) : Count → UInt32 → UInt32
  | .layers => bounds.layers.project
  | .width => bounds.width.project
  | .heads => (nearestHeads · bounds.heads)
  | .kernel => bounds.kernel.project

variable {bounds : Bounds} {count : Count} {d : Descriptor} {n : UInt32}

theorem admits_iff :
    bounds.Admits d ↔ bounds.layers.holds d.layers = true ∧ bounds.width.holds d.width = true ∧
      (∀ n ∈ d.heads?, n ∈ bounds.heads) ∧ ∀ n ∈ d.kernel?, bounds.kernel.holds n = true := by
  constructor
  · intro h
    exact ⟨h .layers d.layers rfl, h .width d.width rfl, h .heads, h .kernel⟩
  · rintro ⟨hlayers, hwidth, hheads, hkernel⟩ count n hn
    cases count with
    | layers => exact Option.some_inj.mp hn ▸ hlayers
    | width => exact Option.some_inj.mp hn ▸ hwidth
    | heads => exact hheads n hn
    | kernel => exact hkernel n hn

theorem count?_project (bounds : Bounds) (d : Descriptor) (count : Count) :
    (bounds.project d).count? count = (d.count? count).map (bounds.move count) := by
  cases d <;> cases count <;> rfl

theorem move_closest (h : bounds.Proper) (count : Count) (n : UInt32) :
    Closest (bounds.Allows count) n.toNat (bounds.move count n) := by
  cases count with
  | layers => exact Span.project_closest h.layers n
  | width => exact Span.project_closest h.width n
  | heads => exact nearestHeads_closest h.heads_ne_nil n
  | kernel => exact Span.project_closest h.kernel n

theorem move_of_allows (h : bounds.Proper) (hn : bounds.Allows count n) :
    bounds.move count n = n :=
  (move_closest h count n).unique (closest_self hn)

/-! ## Projection -/

theorem admits_project (h : bounds.Proper) (d : Descriptor) : bounds.Admits (bounds.project d) := by
  intro count n hn
  rw [count?_project, Option.map_eq_some_iff] at hn
  obtain ⟨old, -, rfl⟩ := hn
  exact (move_closest h count old).holds

theorem project_of_admits (h : bounds.Proper) (hd : bounds.Admits d) : bounds.project d = d := by
  refine Descriptor.eq_of_counts (kind_project bounds d) fun count => ?_
  rw [count?_project]
  cases hcount : d.count? count with
  | none => rfl
  | some n => rw [Option.map_some, move_of_allows h (hd count n hcount)]

theorem project_eq_self_iff (h : bounds.Proper) : bounds.project d = d ↔ bounds.Admits d :=
  ⟨fun heq => heq ▸ admits_project h d, project_of_admits h⟩

theorem project_project (h : bounds.Proper) (d : Descriptor) :
    bounds.project (bounds.project d) = bounds.project d :=
  project_of_admits h (admits_project h d)

theorem project_heads (h : bounds.Proper) {heads : List UInt32}
    (same : ∀ n, n ∈ heads ↔ n ∈ bounds.heads) (d : Descriptor) :
    ({ bounds with heads := heads } : Bounds).project d = bounds.project d := by
  cases d with
  | attention layers width n => simp only [project, nearestHeads_congr same h.heads_ne_nil]
  | recurrent layers width => rfl
  | convolutional layers width kernel => rfl

/-! ## Clamping -/

theorem orderedFor_of_proper (h : bounds.Proper) (kind : Kind) : bounds.orderedFor kind = true := by
  simp [orderedFor, Span.ordered, h.layers, h.width, h.kernel]

theorem clamp_eq_ok (h : bounds.Proper) (d : Descriptor) :
    bounds.clamp d = .ok (bounds.project d) := by
  unfold clamp
  rw [if_pos (orderedFor_of_proper h d.kind)]

theorem contains_eq_ok (h : bounds.Proper) (d : Descriptor) :
    bounds.contains d = .ok (bounds.project d == d) := by
  rw [contains, clamp_eq_ok h]
  rfl

/-- Whether a descriptor lies in bounds. -/
def Holds (bounds : Bounds) (d : Descriptor) : Prop :=
  bounds.contains d = .ok true

theorem holds_iff_admits (h : bounds.Proper) : bounds.Holds d ↔ bounds.Admits d := by
  rw [Holds, contains_eq_ok h, ← project_eq_self_iff h]
  simp

theorem project_of_holds (h : bounds.Proper) (hd : bounds.Holds d) : bounds.project d = d :=
  project_of_admits h ((holds_iff_admits h).mp hd)

theorem contains_project (h : bounds.Proper) (d : Descriptor) :
    bounds.contains (bounds.project d) = .ok true :=
  (holds_iff_admits h).mpr (admits_project h d)

/-! ## The projection onto the box

The list of heads counts as a set: any list with the same members will do, be it
rearranged or rid of its repetitions. -/

theorem clamp_projects (h : bounds.Proper) (d : Descriptor) :
    (∃ answer, bounds.contains d = .ok answer ∧ (answer = true ↔ bounds.Admits d)) ∧
    ∃ moved, bounds.clamp d = .ok moved ∧ bounds.clamp moved = .ok moved ∧
      moved.kind = d.kind ∧ bounds.contains moved = .ok true ∧
      (∀ count n, d.count? count = some n → ∃ m, moved.count? count = some m ∧
        Closest (bounds.Allows count) n.toNat m) ∧
      ∀ heads, (∀ n, n ∈ heads ↔ n ∈ bounds.heads) →
        ({ bounds with heads := heads } : Bounds).clamp d = .ok moved := by
  refine ⟨⟨_, contains_eq_ok h d, ?_⟩, bounds.project d, clamp_eq_ok h d, ?_,
    kind_project bounds d, contains_project h d, fun count n hn => ?_, fun heads same => ?_⟩
  · rw [beq_iff_eq, project_eq_self_iff h]
  · rw [clamp_eq_ok h, project_project h]
  · refine ⟨bounds.move count n, ?_, move_closest h count n⟩
    rw [count?_project, hn, Option.map_some]
  · have proper : ({ bounds with heads := heads } : Bounds).Proper :=
      ⟨h.layers, h.width, h.kernel, ne_nil_of_same same h.heads_ne_nil⟩
    rw [clamp_eq_ok proper, project_heads h same d]

-- Six heads lie between four and eight.
example : Bounds.clamp {} (.attention 40 4 6) = .ok (.attention 12 16 4) := by decide

/-- Bounds with a zero and with heads in no order, one of them twice. -/
def scattered : Bounds where
  layers := ⟨0, 0⟩
  width := ⟨5, 4294967295⟩
  heads := [9, 5, 9, 3]
  kernel := ⟨2, 2⟩

/-- Four heads lie between three and five, whichever comes first in the list. -/
theorem clamp_projects_scattered :
    scattered.Proper ∧
    ∃ moved, scattered.clamp (.attention 7 2 4) = .ok moved ∧
      scattered.contains moved = .ok true ∧
      (∃ m, moved.count? .heads = some m ∧ Closest (· ∈ [9, 5, 9, 3]) 4 m) ∧
      ({ scattered with heads := [3, 5, 9] } : Bounds).clamp (.attention 7 2 4) = .ok moved := by
  have proper : scattered.Proper := ⟨by decide, by decide, by decide, by decide⟩
  have same : ∀ n : UInt32, n ∈ [3, 5, 9] ↔ n ∈ scattered.heads := by
    intro n
    simp only [scattered, List.mem_cons, List.not_mem_nil, or_false]
    tauto
  obtain ⟨-, moved, hclamp, -, -, hin, hclosest, hheads⟩ :=
    clamp_projects proper (.attention 7 2 4)
  exact ⟨proper, moved, hclamp, hin, hclosest .heads 4 rfl, hheads [3, 5, 9] same⟩

end Bounds

end Vivarium
