import Vivarium.Proofs.Lineage.Content
import Vivarium.Proofs.Number.Words

/-!
# Who makes way

When a full memory is offered a descriptor that it does not know, there is one
record too many, and one has to go. It would be simplest if the newcomer were
ranked with the records that are known, as the most recent of all, and the
least of them went. That is not what happens. The newcomer is held against the
weakest record alone, mean against mean, and is turned away unless it is the
better of the two; only then is the weakest taken out.

The two rules come to the same until there is a tie. Ranked with the others the
newcomer would stand above its equals, and the oldest of them would go; held
against the weakest it is no better, and goes itself. A tie is one of numbers
here: the two zeros tie, although they are ranked apart. What is no number ties
with nothing and cannot keep a newcomer out, wherever it is ranked: below all
numbers it is the least and goes by either rule, above them it is not the least
and goes all the same.
-/

namespace Vivarium

open Number

namespace LineageRecord

variable {a b : LineageRecord}

theorem below_of_height_lt (h : height a.meanFitness < height b.meanFitness) : a.Below b := by
  refine .inl ?_
  by_contra hle
  have hheight := height_le_of_rank_le (Int.not_lt.mp hle)
  omega

theorem below_of_below_of_le {c : LineageRecord} (hab : a.Below b) (hbc : b.le c = true) :
    a.Below c := by
  rw [le_iff_not_below, Below] at hbc
  rw [Below] at hab ⊢
  omega

end LineageRecord

namespace Memory

variable {memory : Memory} {offering : Offering} {answer : Offer}

/-- Whether what is known after an offer is what was known and the newcomer, but for the least of
all of these. -/
def DropsLeast (memory : Memory) (newcomer : LineageRecord) (answer : Offer) : Prop :=
  ∃ loser ∈ newcomer :: memory.records,
    (∀ other ∈ newcomer :: memory.records, other ≠ loser → loser.Below other) ∧
      (loser :: answer.2.records).Perm (newcomer :: memory.records)

theorem DropsLeast.newcomer_below {newcomer : LineageRecord}
    (drops : memory.DropsLeast newcomer answer) (same : answer.2.records = memory.records) :
    ∀ old ∈ memory.records, old ≠ newcomer → newcomer.Below old := by
  obtain ⟨loser, -, hleast, hperm⟩ := drops
  rw [same] at hperm
  have hloser : loser = newcomer :=
    List.singleton_perm_singleton.mp ((List.perm_append_right_iff memory.records).mp hperm)
  rw [hloser] at hleast
  exact fun old hold hne => hleast old (List.mem_cons_of_mem _ hold) hne

/-- What becomes of a newcomer to a full memory, of whose records one is the weakest. -/
structure Contest (memory : Memory) (newcomer weakest : LineageRecord) (answer : Offer) :
    Prop where
  stored : weakest ∈ memory.records
  least : ∀ other ∈ memory.records, other ≠ weakest → weakest.Below other
  number : newcomer.sequence = memory.sequence + 1
  newest : ∀ old ∈ memory.records, old.sequence < newcomer.sequence
  answered : answer.1 = some newcomer ∧ newcomer ∈ answer.2.records ∨
    answer.1 = none ∧ newcomer ∉ answer.2.records
  untied : (newcomer.meanFitness.value == weakest.meanFitness.value) = false →
    (weakest.meanFitness.value.isNaN = true → weakest.Below newcomer) →
      memory.DropsLeast newcomer answer
  tied : (newcomer.meanFitness.value == weakest.meanFitness.value) = true →
    answer.1 = none ∧ answer.2.records = memory.records
  unnumbered : weakest.meanFitness.value.isNaN = true → answer.1 = some newcomer ∧
    (weakest :: answer.2.records).Perm (newcomer :: memory.records)

theorem Tidy.below_of_least (tidy : memory.Tidy) {weakest : LineageRecord}
    (h : weakestOf memory.records = some weakest) :
    ∀ other ∈ memory.records, other ≠ weakest → weakest.Below other := by
  obtain ⟨hmem, hleast⟩ := weakestOf_least h
  intro other hother hne
  refine LineageRecord.below_of_le (hleast other hother) fun heq => hne ?_
  exact List.inj_on_of_nodup_map tidy.sequences hother hmem heq.symm

theorem Tidy.arrival_newest (tidy : memory.Tidy) (offering : Offering) :
    ∀ old ∈ memory.records, old.sequence < (memory.arrival offering).sequence :=
  fun old hold => Nat.lt_succ_of_le (tidy.stamped old hold)

/-- Putting the newcomer in the place of a record leaves all but that record. -/
theorem Tidy.perm_replaced (tidy : memory.Tidy) {weakest : LineageRecord}
    (h : weakest ∈ memory.records) (newcomer : LineageRecord) :
    (weakest :: (without memory.records weakest.descriptor ++ [newcomer])).Perm
      (newcomer :: memory.records) :=
  ((tidy.perm_without h).symm.append_right [newcomer]).trans (List.perm_append_singleton _ _)

/-- Not to be at most as strong means to be stronger, unless the weakest mean is no number. -/
theorem below_of_better {newcomer weakest : LineageRecord}
    (number : newcomer.meanFitness.value.isNaN = false)
    (better : ¬ newcomer.meanFitness.value ≤ weakest.meanFitness.value)
    (ranked : weakest.meanFitness.value.isNaN = true → weakest.Below newcomer) :
    weakest.Below newcomer := by
  cases hweak : weakest.meanFitness.value.isNaN with
  | true => exact ranked hweak
  | false =>
      refine LineageRecord.below_of_height_lt (Int.not_le.mp fun hle => better ?_)
      exact Single.le_iff.mpr ⟨number, hweak, hle⟩

/-- The weakest record has made way. -/
theorem Tidy.contest_replaced (tidy : memory.Tidy) {weakest : LineageRecord}
    (number : offering.record.meanFitness.value.isNaN = false)
    (least : weakestOf memory.records = some weakest)
    (better : ¬ offering.record.meanFitness.value ≤ weakest.meanFitness.value) :
    memory.Contest (memory.arrival offering) weakest (some (memory.arrival offering),
      memory.counted.holding
        (without memory.records weakest.descriptor ++ [memory.arrival offering])) := by
  have hmem := (weakestOf_least least).1
  have hbelow := tidy.below_of_least least
  have hperm := tidy.perm_replaced hmem (memory.arrival offering)
  constructor
  case stored => exact hmem
  case least => exact hbelow
  case number => rfl
  case newest => exact tidy.arrival_newest offering
  case answered => exact .inl ⟨rfl, List.mem_append_right _ (List.mem_singleton_self _)⟩
  case untied =>
    intro _ hranked
    refine ⟨weakest, List.mem_cons_of_mem _ hmem, fun other hother hne => ?_, hperm⟩
    rcases List.mem_cons.mp hother with rfl | hold
    · exact below_of_better number better hranked
    · exact hbelow other hold hne
  case tied =>
    intro htie
    obtain ⟨hleft, hright, hsame⟩ := Single.beq_iff.mp htie
    exact absurd (Single.le_iff.mpr ⟨hleft, hright, Int.le_of_eq hsame⟩) better
  case unnumbered => exact fun _ => ⟨rfl, hperm⟩

/-- The newcomer has been turned away. -/
theorem Tidy.contest_beaten (tidy : memory.Tidy) {weakest : LineageRecord}
    (number : offering.record.meanFitness.value.isNaN = false)
    (least : weakestOf memory.records = some weakest)
    (noBetter : offering.record.meanFitness.value ≤ weakest.meanFitness.value) :
    memory.Contest (memory.arrival offering) weakest (none, memory.counted) := by
  obtain ⟨hmem, hleast⟩ := weakestOf_least least
  obtain ⟨-, hweak, hle⟩ := Single.le_iff.mp noBetter
  have hnewest := tidy.arrival_newest offering
  constructor
  case stored => exact hmem
  case least => exact tidy.below_of_least least
  case number => rfl
  case newest => exact hnewest
  case answered =>
    exact .inr ⟨rfl, fun hstored => Nat.lt_irrefl _ (hnewest _ hstored)⟩
  case untied =>
    intro huntied _
    refine ⟨_, List.mem_cons_self, fun other hother hne => ?_, List.Perm.refl _⟩
    have hold := (List.mem_cons.mp hother).resolve_left hne
    refine LineageRecord.below_of_below_of_le ?_ (hleast other hold)
    refine LineageRecord.below_of_height_lt (lt_of_le_of_ne hle fun hsame => ?_)
    exact Bool.eq_false_iff.mp huntied (Single.beq_iff.mpr ⟨number, hweak, hsame⟩)
  case tied => exact fun _ => ⟨rfl, rfl⟩
  case unnumbered =>
    intro hnone
    rw [hweak] at hnone
    cases hnone

theorem Outcome.contest (h : memory.Outcome offering answer) (tidy : memory.Tidy)
    (full : memory.records.length = memory.config.capacity)
    (passed : offering.passes memory.config = true)
    (finite : offering.record.meanFitness.value.isFinite = true)
    (new : memory.find? offering.descriptor = none) :
    ∃ weakest, memory.Contest (memory.arrival offering) weakest answer := by
  have hnumber := isNaN_of_isFinite finite
  cases h with
  | refused shut =>
      rw [passed] at shut
      cases shut
  | merged _ known =>
      rw [new] at known
      cases known
  | added _ _ room => omega
  | replaced _ _ _ least better => exact ⟨_, tidy.contest_replaced hnumber least better⟩
  | beaten _ _ _ least noBetter => exact ⟨_, tidy.contest_beaten hnumber least noBetter⟩

/-! ## Memories that offers have led to -/

theorem offer_contest (config : LineageConfig) (pos : 1 ≤ config.capacity)
    (offerings : List Offering) (memory : Memory)
    (reached : ({ config } : Memory).offerAll offerings = memory)
    (full : memory.records.length = config.capacity) (offering : Offering)
    (passed : offering.passes config = true)
    (finite : offering.record.meanFitness.value.isFinite = true)
    (new : memory.find? offering.descriptor = none) :
    ∃ weakest, memory.Contest (memory.arrival offering) weakest (memory.offer offering) := by
  obtain ⟨hconfig, tidy, -⟩ := held_offerAll config pos offerings
  rw [reached] at hconfig tidy
  subst hconfig
  exact (offer_outcome pos offering).contest tidy full passed finite new

/-- A mean of no number with the sign bit set is the weakest there is, and goes for a smaller mean
than the one beside it. -/
example : ((({ config := { capacity := 2 } } : Memory).offerAll
      [.leaving (({ Cell.founder 1 (.recurrent 1 16) 0 with age := 6 }.evaluated (1 / 0)).evaluated
        (-1 / 0)),
        .leaving ({ Cell.founder 2 (.recurrent 2 16) 0 with age := 6 }.evaluated 0.7)]).offer
      (.past ⟨.recurrent 3 16, 6, 0.65, 1, 0⟩)).2.records.map (·.sequence) = [2, 3] := by
  decide +kernel

/-- A memory that is full of two records of one mean. -/
def evenMemory : Memory :=
  ({ config := { capacity := 2 } } : Memory).offerAll
    [.past ⟨.recurrent 1 16, 6, 0.75, 1, 0⟩, .past ⟨.recurrent 2 16, 6, 0.75, 1, 0⟩]

/-- A record of the past with a mean of its own. -/
def challenger (mean : Single) : Offering :=
  .past ⟨.recurrent 3 16, 6, mean, 1, 0⟩

theorem offer_contest_even :
    1 ≤ ({ capacity := 2 } : LineageConfig).capacity ∧ evenMemory.records.length = 2 ∧
      (challenger 0.875).passes { capacity := 2 } = true ∧
      (challenger 0.875).record.meanFitness.value.isFinite = true ∧
      evenMemory.find? (challenger 0.875).descriptor = none ∧
      (evenMemory.offer (challenger 0.875)).2.records.map (·.sequence) = [2, 3] ∧
      ∃ weakest, evenMemory.Contest (evenMemory.arrival (challenger 0.875)) weakest
        (evenMemory.offer (challenger 0.875)) := by
  have hfull : evenMemory.records.length = 2 := by decide +kernel
  have hpassed : (challenger 0.875).passes { capacity := 2 } = true := by decide +kernel
  have hfinite : (challenger 0.875).record.meanFitness.value.isFinite = true := by decide +kernel
  have hnew : evenMemory.find? (challenger 0.875).descriptor = none := by rfl
  exact ⟨by decide, hfull, hpassed, hfinite, hnew, by decide +kernel,
    offer_contest { capacity := 2 } (by decide) _ evenMemory rfl hfull _ hpassed hfinite hnew⟩

/-- A challenger that ties with both records is turned away; ranked with them, it would stay and the
older of them go. -/
theorem offer_tied_turned_away :
    evenMemory.records.length = 2 ∧ (challenger 0.75).passes { capacity := 2 } = true ∧
      (challenger 0.75).record.meanFitness.value.isFinite = true ∧
      evenMemory.find? (challenger 0.75).descriptor = none ∧
      ¬ evenMemory.DropsLeast (evenMemory.arrival (challenger 0.75))
        (evenMemory.offer (challenger 0.75)) := by
  refine ⟨by decide +kernel, by decide +kernel, by decide +kernel, by rfl, fun hdrops => ?_⟩
  have hsame : (evenMemory.offer (challenger 0.75)).2.records = evenMemory.records := by rfl
  have hbelow := hdrops.newcomer_below hsame ⟨.recurrent 1 16, 6, 0.75, 1, 1⟩ List.mem_cons_self
    fun heq => absurd (congrArg LineageRecord.sequence heq) (by decide +kernel)
  revert hbelow
  unfold LineageRecord.Below
  decide +kernel

end Memory

end Vivarium
