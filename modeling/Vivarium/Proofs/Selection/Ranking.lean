import Vivarium.Proofs.Selection.Culling

/-!
# The law of culling

Cells are ranked by fitness, of equal fitness the older stand higher, and of
equal age those with the lower id. Cells that share no id are never level, so
there is one way only to line them up by rank, and it does not matter in which
order they came. Culling cuts this line in two. What it takes is the lower end,
marked as dead and still by rank, and every cell it takes stands below every
cell it leaves. The marks do not touch what cells are ranked by.

Fitness is compared by the words it is kept in and not as a number. Two zeros of
different sign are unequal, and so are any two words of no number. Each of those
has its place too, below all numbers or above them as its sign says.
-/

namespace Vivarium

open Number

namespace Cell

variable {a b c : Cell}

/-- Whether `a` is culled rather than `b`: the less fit, of equal fitness the younger, and of equal
age the newer. -/
def CulledBefore (a b : Cell) : Prop :=
  rank a.fitness < rank b.fitness ∨
    rank a.fitness = rank b.fitness ∧ (a.age < b.age ∨ a.age = b.age ∧ b.id < a.id)

theorem cullLe_iff_not_before : a.cullLe b = true ↔ ¬ b.CulledBefore a := by
  unfold cullLe CulledBefore
  split
  · split <;> rw [decide_eq_true_eq] <;> omega
  · rw [decide_eq_true_eq]
    omega

theorem cullLe_trans (hab : a.cullLe b = true) (hbc : b.cullLe c = true) : a.cullLe c = true := by
  rw [cullLe_iff_not_before, CulledBefore] at *
  omega

theorem cullLe_total (a b : Cell) : a.cullLe b = true ∨ b.cullLe a = true := by
  rw [cullLe_iff_not_before, cullLe_iff_not_before, CulledBefore, CulledBefore]
  omega

theorem before_of_cullLe (h : a.cullLe b = true) (hne : a.id ≠ b.id) : a.CulledBefore b := by
  rw [cullLe_iff_not_before, CulledBefore] at h
  rw [CulledBefore]
  omega

theorem CulledBefore.asymm (h : a.CulledBefore b) : ¬ b.CulledBefore a := by
  rw [CulledBefore] at *
  omega

end Cell

section

variable {cells : List Cell} (distinct : (cells.map (·.id)).Nodup)
include distinct

theorem cullOrder_ranked : (cullOrder cells).Pairwise Cell.CulledBefore := by
  have hsorted := @List.pairwise_mergeSort Cell Cell.cullLe
    (fun _ _ _ => Cell.cullLe_trans)
    (fun a b => Bool.or_eq_true_iff.mpr (Cell.cullLe_total a b)) cells
  have hids := ((List.mergeSort_perm cells Cell.cullLe).map (·.id)).nodup_iff.mpr distinct
  rw [List.Nodup, List.pairwise_map] at hids
  exact (hsorted.and hids).imp fun h => Cell.before_of_cullLe h.1 h.2

theorem cullOrder_perm {other : List Cell} (h : other.Perm cells) :
    cullOrder other = cullOrder cells := by
  have hdistinct := (h.map (·.id)).nodup_iff.mpr distinct
  refine List.Perm.eq_of_pairwise (fun a b _ _ hab hba => absurd hba hab.asymm)
    (cullOrder_ranked hdistinct) (cullOrder_ranked distinct) ?_
  exact (List.mergeSort_perm other Cell.cullLe).trans
    (h.trans (List.mergeSort_perm cells Cell.cullLe).symm)

end

/-- What is promised of culling some cells until at most `max` remain. -/
structure Culls (cells : List Cell) (max : Nat) (culling : Culling) : Prop where
  length : culling.kept.length = min cells.length max
  inOrder : culling.kept.Sublist cells
  others : ∃ chosen, culling.culled = chosen.map Cell.dead ∧ (culling.kept ++ chosen).Perm cells
  ranked : culling.culled.Pairwise Cell.CulledBefore
  below : ∀ gone ∈ culling.culled, ∀ left ∈ culling.kept, gone.CulledBefore left
  unordered : ∀ other, other.Perm cells → (cullExcess other max).culled = culling.culled

theorem culled_before_kept {cells : List Cell} (distinct : (cells.map (·.id)).Nodup) (max : Nat) :
    ∀ gone ∈ (cullExcess cells max).culled, ∀ left ∈ (cullExcess cells max).kept,
      gone.CulledBefore left := by
  unfold cullExcess
  split
  · intro gone hgone
    cases hgone
  · intro gone hgone left hleft
    obtain ⟨chosen, hchosen, rfl⟩ := List.mem_map.mp hgone
    have hranked := cullOrder_ranked distinct
    rw [← List.take_append_drop (cells.length - max) (cullOrder cells)] at hranked
    exact (List.pairwise_append.mp hranked).2.2 chosen hchosen left
      ((inOrderOf_perm cells _).mem_iff.mp hleft)

theorem cullExcess_culls (cells : List Cell) (distinct : (cells.map (·.id)).Nodup) (max : Nat) :
    Culls cells max (cullExcess cells max) where
  length := length_kept cells max
  inOrder := kept_sublist distinct max
  others := cullExcess_perm cells max
  ranked := by
    unfold cullExcess
    split
    · exact .nil
    · refine List.pairwise_map.mpr (List.Pairwise.sublist (List.take_sublist _ _) ?_)
      exact cullOrder_ranked distinct
  below := culled_before_kept distinct max
  unordered other h := by
    unfold cullExcess
    rw [h.length_eq, cullOrder_perm distinct h]
    split <;> rfl

/-- Five cells: one with a number for a fitness, two with no number, of either sign, and two with
the zero of either sign. -/
def crowd : List Cell :=
  [{ id := 7, descriptor := .recurrent 1 16, fitness := 0, bornTick := 0 },
    { id := 2, descriptor := .recurrent 1 16, fitness := ⟨0xFFC00000⟩, age := 3, bornTick := 0 },
    { id := 9, descriptor := .recurrent 1 16, fitness := ⟨0x7FC00000⟩, age := 3, bornTick := 0 },
    { id := 4, descriptor := .recurrent 1 16, fitness := ⟨0x80000000⟩, age := 5, bornTick := 0 },
    { id := 1, descriptor := .recurrent 1 16, fitness := 0.5, bornTick := 0 }]

theorem cullExcess_culls_crowd :
    (crowd.map (·.id)).Nodup ∧ Culls crowd 1 (cullExcess crowd 1) :=
  ⟨by decide, cullExcess_culls crowd (by decide) 1⟩

end Vivarium
