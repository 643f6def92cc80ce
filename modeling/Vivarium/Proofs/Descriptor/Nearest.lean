import Vivarium.Descriptor.Bounds
import Vivarium.Proofs.Picking

/-!
# The nearest allowed count

Bounds move a count in two ways: into a range, or onto one of the head counts of
a list. Either way it ends at the allowed count nearest to where it was, and
`Closest` says so of any set of allowed counts. There is never more than one such
count, because of two that are equally near the smaller is meant; everything else
follows from that. A count that is allowed stays, so moving twice is moving once,
and the order and the repetitions of a list play no part, since its members alone
decide which count is closest.

In a range no two counts are equally near to a number outside, so there the rule
for the smaller one has nothing to do.
-/

namespace Vivarium

/-- How far a count is from an integer. -/
def gap (target : Int) (n : UInt32) : Nat :=
  (n.toNat - target).natAbs

/-- Whether a count is nearer to an integer than another, or as near and not larger. -/
def Nearer (target : Int) (a b : UInt32) : Prop :=
  gap target a < gap target b ∨ (gap target a = gap target b ∧ a ≤ b)

/-- Whether a count is the allowed one nearest to an integer, the smaller of two as near. -/
structure Closest (allowed : UInt32 → Prop) (target : Int) (n : UInt32) : Prop where
  holds : allowed n
  nearest : ∀ m, allowed m → Nearer target n m

section

variable {allowed : UInt32 → Prop} {target : Int} {a b c n : UInt32}

theorem Nearer.refl (target : Int) (a : UInt32) : Nearer target a a :=
  .inr ⟨rfl, UInt32.le_refl a⟩

theorem Nearer.trans (hab : Nearer target a b) (hbc : Nearer target b c) : Nearer target a c := by
  unfold Nearer at *
  simp only [UInt32.le_iff_toNat_le] at *
  omega

theorem Nearer.antisymm (hab : Nearer target a b) (hba : Nearer target b a) : a = b := by
  unfold Nearer at hab hba
  simp only [UInt32.le_iff_toNat_le] at hab hba
  apply UInt32.toNat_inj.mp
  omega

theorem Closest.unique (ha : Closest allowed target a) (hb : Closest allowed target b) : a = b :=
  (ha.nearest b hb.holds).antisymm (hb.nearest a ha.holds)

theorem closest_self (h : allowed n) : Closest allowed n.toNat n := by
  refine ⟨h, fun m _ => ?_⟩
  by_cases hsame : n = m
  · exact hsame ▸ Nearer.refl _ n
  · have hne : n.toNat ≠ m.toNat := mt UInt32.toNat_inj.mp hsame
    unfold Nearer gap
    omega

end

/-! ## Ranges

What a range does to a count is said of any integer at once: its nearest number
is found by cutting off at both ends. -/

namespace Span

variable {span : Span} {n : UInt32}

/-- The number of the range that is nearest to `n`. -/
def nearest (span : Span) (n : Nat) : Nat :=
  max span.low.toNat (min n span.high.toNat)

theorem holds_iff : span.holds n = true ↔ span.low ≤ n ∧ n ≤ span.high := by
  simp [holds]

theorem project_of_le (hlow : span.low ≤ n) (hhigh : n ≤ span.high) : span.project n = n := by
  unfold project
  rw [if_neg (UInt32.not_lt.mpr hlow), if_neg (UInt32.not_lt.mpr hhigh)]

theorem toNat_project (h : span.low ≤ span.high) (n : UInt32) :
    (span.project n).toNat = span.nearest n.toNat := by
  have hordered : span.low.toNat ≤ span.high.toNat := h
  unfold project nearest
  simp only [UInt32.lt_iff_toNat_lt]
  split
  · omega
  · split <;> omega

theorem closest_of_toNat (h : span.low ≤ span.high) {target : Int}
    (hn : n.toNat = span.nearest target.toNat) :
    Closest (span.holds · = true) target n := by
  have hordered : span.low.toNat ≤ span.high.toNat := h
  unfold nearest at hn
  constructor
  · simp only [holds_iff, UInt32.le_iff_toNat_le]
    omega
  · intro m hm
    simp only [holds_iff, UInt32.le_iff_toNat_le] at hm
    unfold Nearer gap
    simp only [UInt32.le_iff_toNat_le]
    omega

theorem project_closest (h : span.low ≤ span.high) (n : UInt32) :
    Closest (span.holds · = true) n.toNat (span.project n) :=
  closest_of_toNat h (toNat_project h n)

end Span

/-! ## Head counts

The search keeps the better of what it has and what comes next, and the better
one is nearer than both. -/

namespace Bounds

theorem distance_eq_gap (a n : UInt32) : distance a n = gap n.toNat a := by
  unfold distance gap
  omega

theorem closer_iff {n a b : UInt32} :
    closer n a b = true ↔
      gap n.toNat a < gap n.toNat b ∨ (gap n.toNat a = gap n.toNat b ∧ a < b) := by
  simp [closer, distance_eq_gap]

theorem nearer_of_closer {n a b : UInt32} (h : closer n a b = true) : Nearer n.toNat a b := by
  rcases closer_iff.mp h with hlt | ⟨heq, hlt⟩
  · exact .inl hlt
  · exact .inr ⟨heq, UInt32.le_of_lt hlt⟩

theorem nearer_of_not_closer {n a b : UInt32} (h : closer n a b ≠ true) :
    Nearer n.toNat b a := by
  rw [ne_eq, closer_iff] at h
  unfold Nearer
  simp only [UInt32.le_iff_toNat_le, UInt32.lt_iff_toNat_lt] at *
  omega

theorem nearestHeads_closest {allowed : List UInt32} (h : allowed ≠ []) (n : UInt32) :
    Closest (· ∈ allowed) n.toNat (nearestHeads n allowed) := by
  cases allowed with
  | nil => exact absurd rfl h
  | cons first rest =>
      refine ⟨foldl_pick_mem (fun best head => ?_) first rest,
        foldl_pick_before (Nearer.refl n.toNat) Nearer.trans (fun best head => ?_) first rest⟩
      · exact (ite_eq_or_eq (closer n head best = true) head best).symm
      · split
        · next hcloser => exact ⟨nearer_of_closer hcloser, Nearer.refl _ head⟩
        · next hcloser => exact ⟨Nearer.refl _ best, nearer_of_not_closer hcloser⟩

theorem nearestHeads_of_mem {n : UInt32} {allowed : List UInt32} (h : n ∈ allowed) :
    nearestHeads n allowed = n :=
  (nearestHeads_closest (List.ne_nil_of_mem h) n).unique (closest_self h)

theorem ne_nil_of_same {heads allowed : List UInt32} (same : ∀ h, h ∈ heads ↔ h ∈ allowed)
    (hne : allowed ≠ []) : heads ≠ [] := by
  obtain ⟨h, hmem⟩ := List.exists_mem_of_ne_nil allowed hne
  exact List.ne_nil_of_mem ((same h).mpr hmem)

theorem nearestHeads_congr {heads allowed : List UInt32} (same : ∀ h, h ∈ heads ↔ h ∈ allowed)
    (hne : allowed ≠ []) (n : UInt32) : nearestHeads n heads = nearestHeads n allowed := by
  have hmembers : (· ∈ heads) = (· ∈ allowed) := funext fun h => propext (same h)
  have hclosest := nearestHeads_closest (ne_nil_of_same same hne) n
  rw [hmembers] at hclosest
  exact hclosest.unique (nearestHeads_closest hne n)

end Bounds

end Vivarium
