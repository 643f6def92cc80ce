import Vivarium.Proofs.Lineage.Offer
import Vivarium.Proofs.Picking

/-!
# The ranking of records

Records are compared by the rank of their mean and, among equals, by their
sequence numbers. As long as no two of them carry the same number that is a
strict order, so there is one weakest and one strongest record, and looking
through the records in another order finds the same two. The list of all
records from the best down is then strictly descending and starts with the
strongest.
-/

namespace Vivarium

open Number

namespace LineageRecord

variable {a b c : LineageRecord}

/-- Whether `a` stands below `b`: by mean fitness, and by recency among equals. -/
def Below (a b : LineageRecord) : Prop :=
  rank a.meanFitness < rank b.meanFitness ∨
    rank a.meanFitness = rank b.meanFitness ∧ a.sequence < b.sequence

theorem le_iff_not_below : a.le b = true ↔ ¬ b.Below a := by
  unfold le Below
  split <;> rw [decide_eq_true_eq] <;> omega

theorem le_refl (a : LineageRecord) : a.le a = true := by
  rw [le_iff_not_below, Below]
  omega

theorem le_trans (hab : a.le b = true) (hbc : b.le c = true) : a.le c = true := by
  rw [le_iff_not_below, Below] at *
  omega

theorem le_total (a b : LineageRecord) : a.le b = true ∨ b.le a = true := by
  rw [le_iff_not_below, le_iff_not_below, Below, Below]
  omega

theorem rank_le_of_le (h : a.le b = true) : rank a.meanFitness ≤ rank b.meanFitness := by
  rw [le_iff_not_below, Below] at h
  omega

theorem sequence_eq_of_le_of_le (hab : a.le b = true) (hba : b.le a = true) :
    a.sequence = b.sequence := by
  rw [le_iff_not_below, Below] at hab hba
  omega

theorem below_of_le (h : a.le b = true) (hne : a.sequence ≠ b.sequence) : a.Below b := by
  rw [le_iff_not_below, Below] at h
  rw [Below]
  omega

end LineageRecord

namespace Memory

variable {memory : Memory} {records xs ys : List LineageRecord} {found : LineageRecord}

/-! ## The two ends -/

theorem weakestOf_least (h : weakestOf records = some found) :
    found ∈ records ∧ ∀ record ∈ records, found.le record = true := by
  cases records with
  | nil => cases h
  | cons first rest =>
      obtain rfl := Option.some.inj h
      refine ⟨foldl_pick_mem (fun a b => ite_eq_or_eq (a.le b = true) a b) first rest, ?_⟩
      refine foldl_pick_before (R := fun a b => a.le b = true) LineageRecord.le_refl
        LineageRecord.le_trans (fun a b => ?_) first rest
      split
      · next hle => exact ⟨LineageRecord.le_refl a, hle⟩
      · next hnot =>
          exact ⟨(LineageRecord.le_total a b).resolve_left hnot, LineageRecord.le_refl b⟩

theorem strongestOf_greatest (h : strongestOf records = some found) :
    found ∈ records ∧ ∀ record ∈ records, record.le found = true := by
  cases records with
  | nil => cases h
  | cons first rest =>
      obtain rfl := Option.some.inj h
      refine ⟨foldl_pick_mem (fun a b => (ite_eq_or_eq (a.le b = true) b a).symm) first rest, ?_⟩
      refine foldl_pick_before (R := fun a b => b.le a = true) LineageRecord.le_refl
        (fun hab hbc => LineageRecord.le_trans hbc hab) (fun a b => ?_) first rest
      split
      · next hle => exact ⟨hle, LineageRecord.le_refl b⟩
      · next hnot =>
          exact ⟨LineageRecord.le_refl a, (LineageRecord.le_total a b).resolve_left hnot⟩

theorem weakestOf_eq_none_iff : weakestOf records = none ↔ records = [] := by
  cases records <;> simp [weakestOf]

theorem strongestOf_eq_none_iff : strongestOf records = none ↔ records = [] := by
  cases records <;> simp [strongestOf]

/-! ## The order of looking through

Two records that stand no lower than each other have the same number, and so
are one record where the numbers are distinct. That makes either end the only
record of its kind, wherever it stands. -/

theorem eq_of_le_of_le (hdistinct : (records.map (·.sequence)).Nodup) {a b : LineageRecord}
    (ha : a ∈ records) (hb : b ∈ records) (hab : a.le b = true) (hba : b.le a = true) : a = b :=
  List.inj_on_of_nodup_map hdistinct ha hb (LineageRecord.sequence_eq_of_le_of_le hab hba)

theorem weakestOf_eq_some_iff (hdistinct : (records.map (·.sequence)).Nodup) :
    weakestOf records = some found ↔
      found ∈ records ∧ ∀ record ∈ records, found.le record = true := by
  refine ⟨weakestOf_least, fun ⟨hmem, hleast⟩ => ?_⟩
  obtain ⟨other, hother⟩ := Option.ne_none_iff_exists'.mp
    (mt weakestOf_eq_none_iff.mp (List.ne_nil_of_mem hmem))
  obtain ⟨hmem', hleast'⟩ := weakestOf_least hother
  rw [hother, eq_of_le_of_le hdistinct hmem' hmem (hleast' found hmem) (hleast other hmem')]

theorem strongestOf_eq_some_iff (hdistinct : (records.map (·.sequence)).Nodup) :
    strongestOf records = some found ↔
      found ∈ records ∧ ∀ record ∈ records, record.le found = true := by
  refine ⟨strongestOf_greatest, fun ⟨hmem, hgreatest⟩ => ?_⟩
  obtain ⟨other, hother⟩ := Option.ne_none_iff_exists'.mp
    (mt strongestOf_eq_none_iff.mp (List.ne_nil_of_mem hmem))
  obtain ⟨hmem', hgreatest'⟩ := strongestOf_greatest hother
  rw [hother, eq_of_le_of_le hdistinct hmem' hmem (hgreatest other hmem') (hgreatest' found hmem)]

theorem weakestOf_perm (hdistinct : (xs.map (·.sequence)).Nodup) (h : ys.Perm xs) :
    weakestOf ys = weakestOf xs := by
  have hdistinct' := (h.map (·.sequence)).nodup_iff.mpr hdistinct
  refine Option.ext fun found => ?_
  rw [weakestOf_eq_some_iff hdistinct', weakestOf_eq_some_iff hdistinct]
  simp only [h.mem_iff]

theorem strongestOf_perm (hdistinct : (xs.map (·.sequence)).Nodup) (h : ys.Perm xs) :
    strongestOf ys = strongestOf xs := by
  have hdistinct' := (h.map (·.sequence)).nodup_iff.mpr hdistinct
  refine Option.ext fun found => ?_
  rw [strongestOf_eq_some_iff hdistinct', strongestOf_eq_some_iff hdistinct]
  simp only [h.mem_iff]

/-! ## From the best down -/

theorem ranked_perm (memory : Memory) : memory.ranked.Perm memory.records :=
  List.mergeSort_perm memory.records fun a b => b.le a

theorem ranked_sorted (memory : Memory) : memory.ranked.Pairwise fun a b => b.le a = true :=
  @List.pairwise_mergeSort LineageRecord (fun a b => b.le a)
    (fun _ _ _ hab hbc => LineageRecord.le_trans hbc hab)
    (fun a b => Bool.or_eq_true_iff.mpr (LineageRecord.le_total b a)) memory.records

theorem ranked_descending (hdistinct : (memory.records.map (·.sequence)).Nodup) :
    memory.ranked.Pairwise fun a b => b.Below a := by
  have hnumbers := (memory.ranked_perm.map (·.sequence)).nodup_iff.mpr hdistinct
  rw [List.Nodup, List.pairwise_map] at hnumbers
  exact (memory.ranked_sorted.and hnumbers).imp fun h => LineageRecord.below_of_le h.1 h.2.symm

theorem best_eq_head? (hdistinct : (memory.records.map (·.sequence)).Nodup) :
    memory.best = memory.ranked.head? := by
  have hperm := memory.ranked_perm
  have hsorted := memory.ranked_sorted
  rw [best, ← strongestOf_perm hdistinct hperm]
  cases hranked : memory.ranked with
  | nil => rfl
  | cons first rest =>
      rw [hranked] at hperm hsorted
      have hdistinct' := (hperm.map (·.sequence)).nodup_iff.mpr hdistinct
      refine (strongestOf_eq_some_iff hdistinct').mpr ⟨List.mem_cons_self, fun record hrecord => ?_⟩
      rcases List.mem_cons.mp hrecord with rfl | hrest
      · exact LineageRecord.le_refl record
      · exact List.rel_of_pairwise_cons hsorted hrest

end Memory

end Vivarium
