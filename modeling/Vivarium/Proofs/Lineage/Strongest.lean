import Vivarium.Proofs.Lineage.Content
import Vivarium.Proofs.Number.Words

/-!
# A memory keeps the strongest

As long as no descriptor is offered twice, a memory is a sieve: it ends up with
the largest means that were offered, as many as there is room for, whatever the
order in which they came. Nothing that has been dropped exceeds anything that is
kept. A newcomer is turned away only if it is no larger than the weakest record,
and the weakest record makes way only for something larger; so what is dropped
lies below the weakest record either way, and nothing is dropped before the
memory is full.

Means are compared as numbers, where the two zeros are one. Of the records that
tie, the memory keeps some and drops others by their sequence numbers, so it is
the means that are determined and not the records.

All this needs means that are numbers, and the gate does not see to that. It
turns a cell away whose mean is at most the cutoff, and what is no number is not
at most anything. Such a mean gets past the weakest record in the same way, even
past the best one where there is room for no other. So the memory is a sieve in
every order of the offers exactly if every mean that is offered is a number.
-/

namespace Vivarium

open Number

/-- The largest of some means, `k` of them if there are as many, from the largest down. -/
def largest (k : Nat) (means : List Single) : List Single :=
  (means.mergeSort fun a b => rank b ≤ rank a).take k

/-- The mean fitness that an offering comes with. -/
def Offering.mean (offering : Offering) : Single :=
  offering.record.meanFitness

/-! ## Heights in order

Lists of integers in descending order are determined by what they hold, so
sorting means and sorting their heights comes to the same. -/

/-- The heights of some means, from the highest down. -/
def heights (means : List Single) : List Int :=
  (means.map height).mergeSort fun a b => b ≤ a

theorem eq_of_descending {xs ys : List Int} (hxs : xs.Pairwise fun a b => b ≤ a)
    (hys : ys.Pairwise fun a b => b ≤ a) (h : xs.Perm ys) : xs = ys :=
  h.eq_of_pairwise (fun _ _ _ _ hab hba => Int.le_antisymm hba hab) hxs hys

theorem heights_perm (means : List Single) : (heights means).Perm (means.map height) :=
  List.mergeSort_perm _ _

theorem pairwise_mergeSort_key (key : α → Int) (items : List α) :
    (items.mergeSort fun a b => key b ≤ key a).Pairwise fun a b => key b ≤ key a := by
  have hsorted := @List.pairwise_mergeSort α (fun a b => decide (key b ≤ key a))
    (by simp only [decide_eq_true_eq]; omega)
    (by simp only [Bool.or_eq_true, decide_eq_true_eq]; omega) items
  exact hsorted.imp of_decide_eq_true

theorem heights_descending (means : List Single) :
    (heights means).Pairwise fun a b => b ≤ a :=
  pairwise_mergeSort_key id (means.map height)

theorem heights_congr {xs ys : List Single} (h : xs.Perm ys) : heights xs = heights ys :=
  eq_of_descending (heights_descending xs) (heights_descending ys)
    ((heights_perm xs).trans ((h.map height).trans (heights_perm ys).symm))

theorem map_height_largest (k : Nat) (means : List Single) :
    (largest k means).map height = (heights means).take k := by
  have hdescending : ((means.mergeSort fun a b => rank b ≤ rank a).map height).Pairwise
      fun a b => b ≤ a := by
    rw [List.pairwise_map]
    exact (pairwise_mergeSort_key rank means).imp height_le_of_rank_le
  rw [largest, List.map_take]
  congr 1
  exact eq_of_descending hdescending (heights_descending means)
    (((List.mergeSort_perm means _).map height).trans (heights_perm means).symm)

theorem forall₂_beq_of_heights {xs ys : List Single} (h : xs.map height = ys.map height)
    (hxs : ∀ x ∈ xs, x.value.isNaN = false) (hys : ∀ y ∈ ys, y.value.isNaN = false) :
    List.Forall₂ (fun x y => (x.value == y.value) = true) xs ys := by
  induction xs generalizing ys with
  | nil =>
      rw [List.map_nil, eq_comm, List.map_eq_nil_iff] at h
      rw [h]
      exact .nil
  | cons x xs ih =>
      cases ys with
      | nil => cases h
      | cons y ys =>
          rw [List.map_cons, List.map_cons, List.cons.injEq] at h
          rw [List.forall_mem_cons] at hxs hys
          exact .cons (Single.beq_iff.mpr ⟨hxs.1, hys.1, h.1⟩) (ih h.2 hxs.2 hys.2)

namespace Memory

variable {memory : Memory} {offering : Offering} {offerings : List Offering}
  {dropped : List Single}

/-! ## One offer -/

/-- Whether a memory keeps the strongest of some offerings, and the others have been dropped. -/
structure Sieved (offerings : List Offering) (dropped : List Single) (memory : Memory) : Prop where
  tidy : memory.Tidy
  split : (memory.records.map (·.meanFitness) ++ dropped).Perm (offerings.map (·.mean))
  below : ∀ mean ∈ dropped, ∀ record ∈ memory.records, height mean ≤ height record.meanFitness
  full : dropped ≠ [] → memory.records.length = memory.config.capacity

theorem Sieved.number (sieved : memory.Sieved offerings dropped)
    (numbers : ∀ offering ∈ offerings, offering.mean.value.isNaN = false) :
    ∀ mean ∈ memory.records.map (·.meanFitness) ++ dropped, mean.value.isNaN = false := by
  intro mean hmean
  obtain ⟨offering, hoffering, rfl⟩ := List.mem_map.mp (sieved.split.mem_iff.mp hmean)
  exact numbers offering hoffering

theorem Sieved.least (sieved : memory.Sieved offerings dropped) {weakest : LineageRecord}
    (h : weakestOf memory.records = some weakest) :
    (∀ record ∈ memory.records, height weakest.meanFitness ≤ height record.meanFitness) ∧
      ∀ mean ∈ dropped, height mean ≤ height weakest.meanFitness := by
  obtain ⟨hmem, hleast⟩ := weakestOf_least h
  refine ⟨fun record hrecord => ?_, fun mean hmean => sieved.below mean hmean weakest hmem⟩
  exact height_le_of_rank_le (LineageRecord.rank_le_of_le (hleast record hrecord))

/-- Putting one mean in and dropping another: the four parts in another order. -/
theorem perm_exchange (kept dropped : List Single) (new old : Single) :
    ((kept ++ [new]) ++ (old :: dropped)).Perm ((old :: kept ++ dropped) ++ [new]) := by
  refine List.perm_middle.trans (List.Perm.cons old ?_)
  show (kept ++ [new] ++ dropped).Perm (kept ++ dropped ++ [new])
  rw [List.append_assoc, List.append_assoc]
  exact List.perm_append_comm.append_left kept

theorem Sieved.added (sieved : memory.Sieved offerings dropped)
    (tidy : (memory.counted.holding (memory.records ++ [memory.arrival offering])).Tidy)
    (room : memory.records.length < memory.config.capacity) :
    (memory.counted.holding (memory.records ++ [memory.arrival offering])).Sieved
      (offerings ++ [offering]) [] := by
  -- Nothing has been dropped yet, since there is still room.
  have hnone : dropped = [] := by
    by_contra hsome
    exact Nat.ne_of_lt room (sieved.full hsome)
  subst hnone
  refine ⟨tidy, ?_, by simp, by simp⟩
  show ((memory.records ++ [memory.arrival offering]).map _ ++ []).Perm _
  rw [List.append_nil, List.map_append, List.map_append]
  exact (List.append_nil (memory.records.map _) ▸ sieved.split).append_right _

/-- The newcomer is stronger than the weakest record, which joins those that were dropped. -/
theorem Sieved.replaced (sieved : memory.Sieved offerings dropped) {weakest : LineageRecord}
    (tidy : (memory.counted.holding
      (without memory.records weakest.descriptor ++ [memory.arrival offering])).Tidy)
    (full : memory.config.capacity ≤ memory.records.length)
    (least : weakestOf memory.records = some weakest)
    (better : height weakest.meanFitness < height offering.mean) :
    (memory.counted.holding
      (without memory.records weakest.descriptor ++ [memory.arrival offering])).Sieved
      (offerings ++ [offering]) (weakest.meanFitness :: dropped) := by
  obtain ⟨hweakest, hdropped⟩ := sieved.least least
  have hwithout := sieved.tidy.perm_without (weakestOf_least least).1
  constructor
  case tidy => exact tidy
  case split =>
    show ((without memory.records weakest.descriptor ++ [memory.arrival offering]).map _ ++
      (weakest.meanFitness :: dropped)).Perm _
    rw [List.map_append, List.map_append]
    refine (perm_exchange _ _ _ _).trans (List.Perm.append_right _ ?_)
    exact ((hwithout.map _).symm.append_right dropped).trans sieved.split
  case below =>
    intro mean hmean record hrecord
    have hlow : height mean ≤ height weakest.meanFitness := by
      rcases List.mem_cons.mp hmean with rfl | hold
      · exact Int.le_refl _
      · exact hdropped mean hold
    rcases List.mem_append.mp hrecord with hkept | hnew
    · exact hlow.trans (hweakest record (List.mem_of_mem_filter hkept))
    · rw [List.mem_singleton.mp hnew]
      exact hlow.trans (Int.le_of_lt better)
  case full =>
    intro
    have hbounded := sieved.tidy.bounded
    have hlength := hwithout.length_eq
    show (without memory.records weakest.descriptor ++ [memory.arrival offering]).length =
      memory.config.capacity
    rw [List.length_append, List.length_singleton]
    rw [List.length_cons] at hlength
    omega

/-- The newcomer is no stronger than the weakest record, and is dropped itself. -/
theorem Sieved.beaten (sieved : memory.Sieved offerings dropped) {weakest : LineageRecord}
    (full : memory.config.capacity ≤ memory.records.length)
    (least : weakestOf memory.records = some weakest)
    (noBetter : height offering.mean ≤ height weakest.meanFitness) :
    memory.counted.Sieved (offerings ++ [offering]) (offering.mean :: dropped) where
  tidy := sieved.tidy.counted
  split := by
    rw [List.map_append]
    refine List.perm_middle.trans ?_
    exact (sieved.split.cons _).trans (List.perm_append_singleton _ _).symm
  below mean hmean record hrecord := by
    rcases List.mem_cons.mp hmean with rfl | hold
    · exact noBetter.trans ((sieved.least least).1 record hrecord)
    · exact sieved.below mean hold record hrecord
  full _ := Nat.le_antisymm sieved.tidy.bounded full

theorem Sieved.offer (sieved : memory.Sieved offerings dropped) {answer : Offer}
    (houtcome : memory.Outcome offering answer)
    (numbers : ∀ offering ∈ offerings, offering.mean.value.isNaN = false)
    (number : offering.mean.value.isNaN = false)
    (passed : offering.passes memory.config = true)
    (new : memory.find? offering.descriptor = none) :
    ∃ dropped, answer.2.Sieved (offerings ++ [offering]) dropped := by
  have htidy := houtcome.tidy sieved.tidy
  cases houtcome with
  | refused shut =>
      rw [passed] at shut
      cases shut
  | merged _ known =>
      rw [new] at known
      cases known
  | added _ _ room => exact ⟨[], sieved.added htidy room⟩
  | @replaced weakest _ _ full least better =>
      have hmem := (weakestOf_least least).1
      have hweak := sieved.number numbers weakest.meanFitness
        (List.mem_append_left _ (List.mem_map_of_mem hmem))
      have hhigher : height weakest.meanFitness < height offering.mean :=
        Int.not_le.mp fun hle => better (Single.le_iff.mpr ⟨number, hweak, hle⟩)
      exact ⟨_, sieved.replaced htidy full least hhigher⟩
  | @beaten weakest _ _ full least noBetter =>
      exact ⟨_, sieved.beaten full least (Single.le_iff.mp noBetter).2.2⟩

/-! ## All offers -/

section

variable {config : LineageConfig} (pos : 0 < config.capacity) (offerings : List Offering)
include pos

theorem config_offerAll : (({ config } : Memory).offerAll offerings).config = config :=
  (held_offerAll config pos offerings).1

theorem offerAll_outcome (offering : Offering) :
    (({ config } : Memory).offerAll offerings).Outcome offering
      ((({ config } : Memory).offerAll offerings).offer offering) := by
  refine offer_outcome ?_ offering
  rw [config_offerAll pos offerings]
  exact pos

/-- A memory knows no descriptor that was not offered. -/
theorem known_offerAll : ∀ record ∈ (({ config } : Memory).offerAll offerings).records,
    record.descriptor ∈ offerings.map (·.descriptor) := by
  induction offerings using List.reverseRecOn with
  | nil => exact fun record hrecord => nomatch hrecord
  | append_singleton offerings offering ih =>
      intro record hrecord
      rw [offerAll_concat] at hrecord
      rw [List.map_append, List.map_singleton, List.mem_append, List.mem_singleton]
      rcases (offerAll_outcome pos offerings offering).descriptor_of_mem hrecord with
        ⟨old, hold, hsame⟩ | hsame
      · rw [hsame]
        exact .inl (ih old hold)
      · exact .inr hsame

theorem find?_offerAll {offering : Offering}
    (fresh : ((offerings ++ [offering]).map (·.descriptor)).Nodup) :
    (({ config } : Memory).offerAll offerings).find? offering.descriptor = none := by
  refine find?_eq_none_iff.mpr fun record hrecord hsame => ?_
  rw [List.map_append, List.map_singleton, ← List.concat_eq_append, List.nodup_concat] at fresh
  exact fresh.1 (hsame ▸ known_offerAll pos offerings record hrecord)

theorem sieved_offerAll
    (passed : ∀ offering ∈ offerings, offering.passes config = true)
    (numbers : ∀ offering ∈ offerings, offering.mean.value.isNaN = false)
    (distinct : (offerings.map (·.descriptor)).Nodup) :
    ∃ dropped, (({ config } : Memory).offerAll offerings).Sieved offerings dropped := by
  induction offerings using List.reverseRecOn with
  | nil =>
      refine ⟨[], fresh_tidy config, List.Perm.refl _, ?_, ?_⟩
      · exact fun mean hmean => by cases hmean
      · exact fun hsome => absurd rfl hsome
  | append_singleton offerings offering ih =>
      rw [List.forall_mem_append, List.forall_mem_singleton] at passed numbers
      have hnew := find?_offerAll pos offerings distinct
      rw [List.map_append] at distinct
      obtain ⟨dropped, sieved⟩ := ih passed.1 numbers.1 distinct.of_append_left
      have hpassed := passed.2
      rw [← config_offerAll pos offerings] at hpassed
      rw [offerAll_concat]
      exact sieved.offer (offerAll_outcome pos offerings offering) numbers.1 numbers.2 hpassed hnew

end

theorem Sieved.length_eq (sieved : memory.Sieved offerings dropped) :
    memory.records.length = min memory.config.capacity offerings.length := by
  have hbounded := sieved.tidy.bounded
  have hsplit := sieved.split.length_eq
  rw [List.length_append, List.length_map, List.length_map] at hsplit
  by_cases hnone : dropped = []
  · rw [hnone, List.length_nil] at hsplit
    omega
  · have hfull := sieved.full hnone
    omega

theorem ranked_heights_descending (memory : Memory) :
    ((memory.ranked.map (·.meanFitness)).map height).Pairwise fun a b => b ≤ a := by
  rw [List.pairwise_map, List.pairwise_map]
  exact memory.ranked_sorted.imp fun h => height_le_of_rank_le (LineageRecord.rank_le_of_le h)

/-- The heights kept and, below them, the heights dropped are the heights offered. -/
theorem Sieved.heights_split (sieved : memory.Sieved offerings dropped) :
    (memory.ranked.map (·.meanFitness)).map height ++ heights dropped =
      heights (offerings.map (·.mean)) := by
  have hperm := memory.ranked_perm
  refine eq_of_descending (List.pairwise_append.mpr ⟨ranked_heights_descending memory,
    heights_descending dropped, ?_⟩) (heights_descending _) ?_
  · intro kept hkept low hlow
    obtain ⟨mean, hmean, rfl⟩ := List.mem_map.mp hkept
    obtain ⟨record, hrecord, rfl⟩ := List.mem_map.mp hmean
    obtain ⟨other, hother, rfl⟩ := List.mem_map.mp ((heights_perm dropped).mem_iff.mp hlow)
    exact sieved.below other hother record (hperm.mem_iff.mp hrecord)
  · refine List.Perm.trans ?_ ((sieved.split.map height).trans (heights_perm _).symm)
    rw [List.map_append]
    exact ((hperm.map _).map _).append (heights_perm dropped)

theorem Sieved.heights_eq (sieved : memory.Sieved offerings dropped) :
    (memory.ranked.map (·.meanFitness)).map height =
      (heights (offerings.map (·.mean))).take memory.config.capacity := by
  have hlength : ((memory.ranked.map (·.meanFitness)).map height).length =
      min memory.config.capacity offerings.length := by
    rw [List.length_map, List.length_map, memory.ranked_perm.length_eq, sieved.length_eq]
  have htotal : (heights (offerings.map (·.mean))).length = offerings.length := by
    rw [(heights_perm _).length_eq, List.length_map, List.length_map]
  rw [List.take_eq_take_min, htotal, ← hlength, ← sieved.heights_split, List.take_left]

theorem Sieved.best_greatest (sieved : memory.Sieved offerings dropped)
    (pos : 0 < memory.config.capacity)
    (numbers : ∀ offering ∈ offerings, offering.mean.value.isNaN = false)
    (hsome : offerings.map (·.mean) ≠ []) :
    ∃ best, memory.best = some best ∧ best.meanFitness ∈ offerings.map (·.mean) ∧
      ∀ mean ∈ offerings.map (·.mean), mean.value ≤ best.meanFitness.value := by
  have hlength := sieved.length_eq
  have hmany := List.length_pos_iff.mpr hsome
  rw [List.length_map] at hmany
  have hrecords : memory.records ≠ [] := List.length_pos_iff.mp (by omega)
  obtain ⟨best, hbest⟩ := Option.ne_none_iff_exists'.mp (mt strongestOf_eq_none_iff.mp hrecords)
  obtain ⟨hmem, hgreatest⟩ := strongestOf_greatest hbest
  have hstored : best.meanFitness ∈ memory.records.map (·.meanFitness) ++ dropped :=
    List.mem_append_left _ (List.mem_map_of_mem hmem)
  refine ⟨best, hbest, sieved.split.mem_iff.mp hstored, fun mean hmean => ?_⟩
  have hkept := sieved.split.mem_iff.mpr hmean
  refine Single.le_iff.mpr ⟨sieved.number numbers _ hkept, sieved.number numbers _ hstored, ?_⟩
  rcases List.mem_append.mp hkept with hrecord | hdropped
  · obtain ⟨record, hmem', rfl⟩ := List.mem_map.mp hrecord
    exact height_le_of_rank_le (LineageRecord.rank_le_of_le (hgreatest record hmem'))
  · exact sieved.below mean hdropped best hmem

/-- Whether a memory holds the largest of some means and knows the largest of all. -/
structure KeepsLargest (k : Nat) (means : List Single) (memory : Memory) : Prop where
  stored : ∃ stored : List Single, stored.Perm (memory.records.map (·.meanFitness)) ∧
    List.Forall₂ (fun x y => (x.value == y.value) = true) stored (largest k means)
  best : means ≠ [] → ∃ best, memory.best = some best ∧ best.meanFitness ∈ means ∧
    ∀ mean ∈ means, mean.value ≤ best.meanFitness.value

theorem Sieved.keepsLargest (sieved : memory.Sieved offerings dropped)
    (pos : 0 < memory.config.capacity)
    (numbers : ∀ offering ∈ offerings, offering.mean.value.isNaN = false) {means : List Single}
    (hmeans : (offerings.map (·.mean)).Perm means) :
    KeepsLargest memory.config.capacity means memory := by
  have hnumbers : ∀ mean ∈ means, mean.value.isNaN = false := by
    intro mean hmean
    obtain ⟨offering, hoffering, rfl⟩ := List.mem_map.mp (hmeans.mem_iff.mpr hmean)
    exact numbers offering hoffering
  constructor
  case stored =>
    have hperm := (ranked_perm memory).map (·.meanFitness)
    refine ⟨memory.ranked.map (·.meanFitness), hperm, forall₂_beq_of_heights ?_ ?_ ?_⟩
    · rw [sieved.heights_eq, map_height_largest, heights_congr hmeans]
    · intro mean hmean
      exact sieved.number numbers mean (List.mem_append_left _ (hperm.mem_iff.mp hmean))
    · exact fun mean hmean => hnumbers mean (List.mem_mergeSort.mp (List.mem_of_mem_take hmean))
  case best =>
    intro hsome
    have hsome' : offerings.map (·.mean) ≠ [] := fun hnil =>
      hsome (hmeans.symm.trans (.of_eq hnil)).eq_nil
    obtain ⟨best, hbest, hoffered, hgreatest⟩ := sieved.best_greatest pos numbers hsome'
    exact ⟨best, hbest, hmeans.mem_iff.mp hoffered,
      fun mean hmean => hgreatest mean (hmeans.mem_iff.mpr hmean)⟩

/-- What is no number is stored if it is offered last, whatever has to make way for it. -/
theorem arrival_stored {answer : Offer} (h : memory.Outcome offering answer)
    (passed : offering.passes memory.config = true)
    (new : memory.find? offering.descriptor = none)
    (unnumbered : offering.mean.value.isNaN = true) :
    memory.arrival offering ∈ answer.2.records := by
  cases h with
  | refused shut =>
      rw [passed] at shut
      cases shut
  | merged _ known =>
      rw [new] at known
      cases known
  | added | replaced => exact List.mem_append_right _ (List.mem_singleton_self _)
  | beaten _ _ _ _ noBetter =>
      have hnumber : offering.mean.value.isNaN = false := (Single.le_iff.mp noBetter).1
      rw [unnumbered] at hnumber
      cases hnumber

/-- Nothing that is stored is a number's equal unless it is a number. -/
theorem KeepsLargest.number {k : Nat} {means : List Single} (keeps : KeepsLargest k means memory) :
    ∀ record ∈ memory.records, record.meanFitness.value.isNaN = false := by
  obtain ⟨stored, hstored, hsame⟩ := keeps.stored
  have hnumbers := (List.forall₂_and_left stored (largest k means)).mp
    (hsame.imp fun _ _ h => ⟨(Single.beq_iff.mp h).1, h⟩)
  intro record hrecord
  exact hnumbers.1 _ (hstored.mem_iff.mpr (List.mem_map_of_mem hrecord))

section

variable {config : LineageConfig} (pos : 1 ≤ config.capacity) {offerings : List Offering}
  (passed : ∀ offering ∈ offerings, offering.passes config = true)
  (distinct : (offerings.map (·.descriptor)).Nodup)
include pos passed distinct

/-- Among all orders of the offers there is one in which a given one comes last. -/
theorem number_of_keepsLargest
    (keeps : ∀ shuffled : List Offering, shuffled.Perm offerings →
      KeepsLargest config.capacity (offerings.map (·.mean))
        (({ config } : Memory).offerAll shuffled)) :
    ∀ offering ∈ offerings, offering.mean.value.isNaN = false := by
  intro offering hoffering
  by_contra hnumber
  rw [Bool.not_eq_false] at hnumber
  have hpassed := passed offering hoffering
  obtain ⟨before, after, rfl⟩ := List.append_of_mem hoffering
  have order : ((before ++ after) ++ [offering]).Perm (before ++ offering :: after) :=
    (List.perm_append_singleton _ _).trans List.perm_middle.symm
  have hnew := find?_offerAll pos _ ((order.map (·.descriptor)).nodup_iff.mpr distinct)
  rw [← config_offerAll pos (before ++ after)] at hpassed
  have hstored := arrival_stored (offerAll_outcome pos (before ++ after) offering) hpassed hnew
    hnumber
  have hkept := (keeps _ order).number
  rw [offerAll_concat] at hkept
  have hnumber' := hkept _ hstored
  cases hnumber.symm.trans hnumber'

theorem keepsLargest_of_numbers
    (numbers : ∀ offering ∈ offerings, offering.mean.value.isNaN = false) {means : List Single}
    (hmeans : (offerings.map (·.mean)).Perm means) :
    KeepsLargest config.capacity means (({ config } : Memory).offerAll offerings) := by
  obtain ⟨dropped, sieved⟩ := sieved_offerAll pos offerings passed numbers distinct
  have hconfig := config_offerAll pos offerings
  have hpos : 0 < (({ config } : Memory).offerAll offerings).config.capacity := by
    rw [hconfig]
    exact pos
  have keeps := sieved.keepsLargest hpos numbers hmeans
  rwa [hconfig] at keeps

end

theorem offerAll_keeps_largest_iff (config : LineageConfig) (pos : 1 ≤ config.capacity)
    (offerings : List Offering)
    (passed : ∀ offering ∈ offerings, offering.passes config = true)
    (distinct : (offerings.map (·.descriptor)).Nodup) :
    (∀ shuffled : List Offering, shuffled.Perm offerings →
        KeepsLargest config.capacity (offerings.map (·.mean))
          (({ config } : Memory).offerAll shuffled)) ↔
      ∀ offering ∈ offerings, offering.mean.value.isNaN = false := by
  constructor
  · exact number_of_keepsLargest pos passed distinct
  · intro numbers shuffled order
    have hpassed := fun offering h => passed offering (order.mem_iff.mp h)
    have hnumbers := fun offering h => numbers offering (order.mem_iff.mp h)
    have hdistinct := (order.map (·.descriptor)).nodup_iff.mpr distinct
    exact keepsLargest_of_numbers pos hpassed hdistinct hnumbers (order.map (·.mean))

/-- One more than a memory of two has room for: two records of the past, and a cell between them. -/
def contenders : List Offering :=
  [.past ⟨.recurrent 1 16, 6, 0.5, 1, 0⟩,
    .leaving { id := 3, descriptor := .recurrent 2 16, age := 6, bornTick := 1,
               fitnessSum := .of 1.5, evaluations := 2 },
    .past ⟨.recurrent 3 16, 2, 0.875, 4, 0⟩]

theorem offerAll_keeps_largest_iff_contenders :
    1 ≤ ({ capacity := 2 } : LineageConfig).capacity ∧
      (∀ offering ∈ contenders, offering.passes { capacity := 2 } = true) ∧
      (contenders.map (·.descriptor)).Nodup ∧
      (∀ offering ∈ contenders, offering.mean.value.isNaN = false) ∧
      contenders.reverse.Perm contenders ∧
      KeepsLargest 2 (contenders.map (·.mean))
        (({ config := { capacity := 2 } } : Memory).offerAll contenders.reverse) := by
  have passed : ∀ offering ∈ contenders, offering.passes { capacity := 2 } = true := by
    decide +kernel
  have distinct : (contenders.map (·.descriptor)).Nodup := by decide
  have numbers : ∀ offering ∈ contenders, offering.mean.value.isNaN = false := by
    decide +kernel
  have order : contenders.reverse.Perm contenders := contenders.reverse_perm
  exact ⟨by decide, passed, distinct, numbers, order,
    (offerAll_keeps_largest_iff { capacity := 2 } (by decide) contenders passed distinct).mpr
      numbers _ order⟩

/-- Two cells that pass the gate: one scored well, the other's score is no number. -/
def intruders : List Offering :=
  [.leaving ({ Cell.founder 1 (.recurrent 1 16) 0 with age := 6 }.evaluated 0.9),
    .leaving ({ Cell.founder 2 (.recurrent 2 16) 0 with age := 6 }.evaluated (0 / 0))]

/-- In a memory with room for one, the best mean ever offered makes way for what is no number. -/
theorem offerAll_loses_largest :
    (∀ offering ∈ intruders, offering.passes { capacity := 1 } = true) ∧
      (intruders.map (·.descriptor)).Nodup ∧
      (intruders.map (·.mean)).head? = some 0.9 ∧
      (({ config := { capacity := 1 } } : Memory).offerAll intruders).best.map
        (·.meanFitness.value.isNaN) = some true ∧
      ¬ KeepsLargest 1 (intruders.map (·.mean))
        (({ config := { capacity := 1 } } : Memory).offerAll intruders) := by
  refine ⟨by decide +kernel, by decide, by decide +kernel, by decide +kernel, fun keeps => ?_⟩
  have hnumber := keeps.number
  revert hnumber
  decide +kernel

end Memory

end Vivarium
