import Vivarium.Selection
import Mathlib.Tactic

/-!
# Culling loses nothing and keeps the order

Culling sorts the cells by rank, cuts the list in two, and puts the better part
back into the order it came in by sorting once more, by position. Both sorts
only rearrange, so what is kept and what is culled are together what was there.
The second sort looks positions up by id. That is why it restores the order
only where no two cells share an id: there, what it gives is the list that was
there without the cells that were cut off. Ascending ids are distinct, and so
what is kept of them ascends.
-/

namespace Vivarium

/-- Whether the ids of some cells ascend along the list. -/
def Ascending (cells : List Cell) : Prop :=
  cells.Pairwise fun a b => a.id < b.id

theorem Ascending.distinct {cells : List Cell} (h : Ascending cells) :
    (cells.map (·.id)).Nodup :=
  (List.pairwise_map.mpr h).imp Nat.ne_of_lt

theorem Ascending.eq_of_id_eq {cells : List Cell} (h : Ascending cells) {a b : Cell}
    (ha : a ∈ cells) (hb : b ∈ cells) (heq : a.id = b.id) : a = b :=
  List.inj_on_of_nodup_map h.distinct ha hb heq

/-! ## Positions -/

section Positions

variable {cells some : List Cell} (distinct : (cells.map (·.id)).Nodup)
include distinct

theorem index_eq_of_id_eq {i j : Nat} {hi : i < cells.length} {hj : j < cells.length}
    (heq : cells[i].id = cells[j].id) : i = j := by
  have hlength : (cells.map (·.id)).length = cells.length := List.length_map _
  have hids : (cells.map (·.id))[i] = (cells.map (·.id))[j] := by
    rwa [List.getElem_map, List.getElem_map]
  exact distinct.getElem_inj_iff.mp hids

theorem lastPosition_getElem {i : Nat} (hi : i < cells.length) :
    lastPosition cells cells[i].id = i := by
  unfold lastPosition
  have hback : cells.length - 1 - i < cells.reverse.length := by
    rw [List.length_reverse]
    omega
  have hfind : cells.reverse.findIdx (·.id == cells[i].id) = cells.length - 1 - i := by
    rw [List.findIdx_eq hback]
    refine ⟨?_, fun j hj => ?_⟩
    · rw [List.getElem_reverse, beq_iff_eq]
      congr 2
      omega
    · rw [List.getElem_reverse, beq_eq_false_iff_ne]
      intro heq
      have hij := index_eq_of_id_eq distinct heq
      omega
  rw [hfind]
  omega

theorem positions_ascend :
    cells.Pairwise fun a b => lastPosition cells a.id ≤ lastPosition cells b.id := by
  refine List.pairwise_iff_getElem.mpr fun i j hi hj hlt => ?_
  rw [lastPosition_getElem distinct hi, lastPosition_getElem distinct hj]
  exact Nat.le_of_lt hlt

theorem eq_of_lastPosition_eq {a b : Cell} (ha : a ∈ cells) (hb : b ∈ cells)
    (heq : lastPosition cells a.id = lastPosition cells b.id) : a = b := by
  obtain ⟨i, hi, rfl⟩ := List.getElem_of_mem ha
  obtain ⟨j, hj, rfl⟩ := List.getElem_of_mem hb
  rw [lastPosition_getElem distinct hi, lastPosition_getElem distinct hj] at heq
  subst heq
  rfl

end Positions

/-! ## The order is restored -/

theorem inOrderOf_perm (cells some : List Cell) : (inOrderOf cells some).Perm some := by
  unfold inOrderOf
  have hsort := (List.mergeSort_perm (some.map fun cell => (lastPosition cells cell.id, cell))
    fun a b => a.1 ≤ b.1).map (·.2)
  rw [List.map_map] at hsort
  exact hsort.trans (List.Perm.of_eq (List.map_id some))

theorem inOrderOf_sorted (cells some : List Cell) :
    (inOrderOf cells some).Pairwise fun a b =>
      lastPosition cells a.id ≤ lastPosition cells b.id := by
  unfold inOrderOf
  dsimp only
  rw [List.pairwise_map]
  have hsorted := @List.pairwise_mergeSort _ (fun a b : Nat × Cell => decide (a.1 ≤ b.1))
    (by simp only [decide_eq_true_eq]; omega)
    (by simp only [Bool.or_eq_true, decide_eq_true_eq]; omega)
    (some.map fun cell => (lastPosition cells cell.id, cell))
  refine hsorted.imp_of_mem fun {a b} ha hb hab => ?_
  rw [List.mem_mergeSort, List.mem_map] at ha hb
  obtain ⟨x, -, rfl⟩ := ha
  obtain ⟨y, -, rfl⟩ := hb
  exact of_decide_eq_true hab

/-- Some of the cells in the order of all are all the cells without the others. -/
theorem inOrderOf_eq_filter {cells some : List Cell} (distinct : (cells.map (·.id)).Nodup)
    (hsub : ∀ cell ∈ some, cell ∈ cells) (hnodup : some.Nodup) :
    inOrderOf cells some = cells.filter fun cell => cell.id ∈ some.map (·.id) := by
  have hperm : (cells.filter fun cell => cell.id ∈ some.map (·.id)).Perm some := by
    refine (List.perm_ext_iff_of_nodup (distinct.of_map.filter _) hnodup).mpr fun cell => ?_
    rw [List.mem_filter, decide_eq_true_eq, List.mem_map]
    constructor
    · rintro ⟨hcell, other, hother, heq⟩
      rwa [← List.inj_on_of_nodup_map distinct (hsub other hother) hcell heq]
    · exact fun hcell => ⟨hsub cell hcell, cell, hcell, rfl⟩
  refine ((inOrderOf_perm cells some).trans hperm.symm).eq_of_pairwise ?_
    (inOrderOf_sorted cells some) ((positions_ascend distinct).sublist List.filter_sublist)
  intro a b ha hb hab hba
  exact eq_of_lastPosition_eq distinct (hsub a ((inOrderOf_perm cells some).mem_iff.mp ha))
    (List.mem_of_mem_filter hb) (Nat.le_antisymm hab hba)

/-! ## What is kept and what is culled -/

theorem cullExcess_perm (cells : List Cell) (max : Nat) :
    ∃ chosen, (cullExcess cells max).culled = chosen.map Cell.dead ∧
      ((cullExcess cells max).kept ++ chosen).Perm cells := by
  unfold cullExcess
  split
  · exact ⟨[], rfl, by rw [List.append_nil]⟩
  · refine ⟨(cullOrder cells).take (cells.length - max), rfl, ?_⟩
    have hkept := inOrderOf_perm cells ((cullOrder cells).drop (cells.length - max))
    have hcut : ((cullOrder cells).drop (cells.length - max) ++
        (cullOrder cells).take (cells.length - max)).Perm (cullOrder cells) := by
      refine List.perm_append_comm.trans (List.Perm.of_eq ?_)
      exact List.take_append_drop _ _
    exact (hkept.append_right _).trans (hcut.trans (List.mergeSort_perm cells Cell.cullLe))

theorem length_culled (cells : List Cell) (max : Nat) :
    (cullExcess cells max).culled.length = cells.length - max := by
  unfold cullExcess
  split
  · next hle => rw [List.length_nil]; omega
  · rw [List.length_map, List.length_take, cullOrder, List.length_mergeSort]
    omega

theorem length_kept (cells : List Cell) (max : Nat) :
    (cullExcess cells max).kept.length = min cells.length max := by
  obtain ⟨chosen, hculled, hperm⟩ := cullExcess_perm cells max
  have hall := hperm.length_eq
  have hchosen := length_culled cells max
  rw [hculled, List.length_map] at hchosen
  rw [List.length_append] at hall
  omega

theorem kept_sublist {cells : List Cell} (distinct : (cells.map (·.id)).Nodup) (max : Nat) :
    (cullExcess cells max).kept.Sublist cells := by
  unfold cullExcess
  split
  · exact List.Sublist.refl cells
  · have hnodup : (cullOrder cells).Nodup :=
      (List.mergeSort_perm cells Cell.cullLe).nodup_iff.mpr distinct.of_map
    show (inOrderOf cells _).Sublist cells
    rw [inOrderOf_eq_filter distinct (fun cell hcell => ?_) (hnodup.sublist (List.drop_sublist _ _))]
    · exact List.filter_sublist
    · exact List.mem_mergeSort.mp (List.mem_of_mem_drop hcell)

theorem kept_ascending {cells : List Cell} (h : Ascending cells) (max : Nat) :
    Ascending (cullExcess cells max).kept :=
  h.sublist (kept_sublist h.distinct max)

end Vivarium
