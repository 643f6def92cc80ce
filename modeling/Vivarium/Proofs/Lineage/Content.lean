import Vivarium.Proofs.Lineage.Outcome

/-!
# What the records of a memory say

A record says how many cells it stands for, how old the oldest of them became,
and when it was last offered. That is not a statement about all that was ever
offered: a record that made way is forgotten, and one that comes back starts
anew. So the offers that got through are written down in order, each with
whether its descriptor was new then, and a record is held against the tenure of
its descriptor: the offers since it was last new.

An offer adds to at most one tenure. It starts it over where a newcomer is
taken in and prolongs it where a record is revised; the other records that are
kept have the tenures they had. The number of records, their descriptors and
their sequence numbers are looked after by `Tidy`, which also makes the best
and the weakest record well defined, however the records are looked through.
-/

namespace Vivarium

/-- An offer that got through. -/
structure Acceptance where
  offering : Offering
  sequence : Nat
  newcomer : Bool

/-- The offers of a descriptor since it was last new. -/
def tenure (d : Descriptor) (history : List Acceptance) : List Acceptance :=
  history.foldl (fun since acceptance =>
    if acceptance.offering.descriptor = d then
      if acceptance.newcomer then [acceptance] else since ++ [acceptance]
    else since) []

section Tenure

variable {history : List Acceptance} {acceptance : Acceptance} {d : Descriptor}

theorem tenure_concat (d : Descriptor) (history : List Acceptance) (acceptance : Acceptance) :
    tenure d (history ++ [acceptance]) =
      if acceptance.offering.descriptor = d then
        if acceptance.newcomer then [acceptance] else tenure d history ++ [acceptance]
      else tenure d history := by
  rw [tenure, List.foldl_append]
  rfl

theorem tenure_of_ne (h : acceptance.offering.descriptor ≠ d) :
    tenure d (history ++ [acceptance]) = tenure d history := by
  rw [tenure_concat, if_neg h]

theorem tenure_of_new (h : acceptance.offering.descriptor = d)
    (new : acceptance.newcomer = true) : tenure d (history ++ [acceptance]) = [acceptance] := by
  rw [tenure_concat, if_pos h, if_pos new]

theorem tenure_of_known (h : acceptance.offering.descriptor = d)
    (known : acceptance.newcomer = false) :
    tenure d (history ++ [acceptance]) = tenure d history ++ [acceptance] := by
  rw [tenure_concat, if_pos h, known]
  rfl

end Tenure

/-- Whether a record says what the offers of its tenure come to. -/
structure LineageRecord.Tells (history : List Acceptance) (record : LineageRecord) : Prop where
  observations : record.observations =
    ((tenure record.descriptor history).map (·.offering.record.observations)).sum
  survivalAge : ((tenure record.descriptor history).map (·.offering.record.survivalAge)).max? =
    some record.survivalAge
  sequence : (tenure record.descriptor history).getLast?.map (·.sequence) = some record.sequence

theorem max?_concat {values : List Nat} {greatest : Nat} (h : values.max? = some greatest)
    (value : Nat) : (values ++ [value]).max? = some (max greatest value) := by
  rw [List.max?_eq_some_iff] at h ⊢
  obtain ⟨hmem, hbound⟩ := h
  constructor
  · rcases Nat.le_total greatest value with hle | hle
    · rw [Nat.max_eq_right hle]
      exact List.mem_append_right _ (List.mem_singleton_self value)
    · rw [Nat.max_eq_left hle]
      exact List.mem_append_left _ hmem
  · intro other hother
    rcases List.mem_append.mp hother with hold | hnew
    · exact Nat.le_trans (hbound other hold) (Nat.le_max_left _ _)
    · rw [List.mem_singleton.mp hnew]
      exact Nat.le_max_right _ _

namespace Memory

variable {memory : Memory} {offering : Offering} {history : List Acceptance}

/-- What is written down of an offer, if it gets through. -/
def acceptance? (memory : Memory) (offering : Offering) : Option Acceptance :=
  (memory.offer offering).1.map fun _ =>
    { offering
      sequence := (memory.offer offering).2.sequence
      newcomer := (memory.find? offering.descriptor).isNone }

/-- The offers that get through when some are made one after another. -/
def accepted (memory : Memory) : List Offering → List Acceptance
  | [] => []
  | offering :: rest =>
      (memory.acceptance? offering).toList ++ (memory.offer offering).2.accepted rest

theorem accepted_concat (memory : Memory) (offerings : List Offering) (offering : Offering) :
    memory.accepted (offerings ++ [offering]) =
      memory.accepted offerings ++ ((memory.offerAll offerings).acceptance? offering).toList := by
  induction offerings generalizing memory with
  | nil => simp only [List.nil_append, accepted, offerAll, List.foldl_nil, List.append_nil]
  | cons first rest ih =>
      rw [List.cons_append, accepted, ih, accepted, List.append_assoc]
      rfl

/-! ## One offer -/

/-- The acceptance of an offer to a memory that may or may not know the descriptor. -/
def arriving (memory : Memory) (offering : Offering) (newcomer : Bool) : Acceptance :=
  { offering, sequence := memory.counted.sequence, newcomer }

theorem tells_of_ne {record : LineageRecord} (tells : record.Tells history)
    (h : offering.descriptor ≠ record.descriptor) (newcomer : Bool) :
    record.Tells (history ++ [memory.arriving offering newcomer]) := by
  have hsame : tenure record.descriptor (history ++ [memory.arriving offering newcomer]) =
      tenure record.descriptor history := tenure_of_ne h
  constructor
  · rw [hsame]
    exact tells.observations
  · rw [hsame]
    exact tells.survivalAge
  · rw [hsame]
    exact tells.sequence

theorem tells_arrival (history : List Acceptance) :
    (memory.arrival offering).Tells (history ++ [memory.arriving offering true]) := by
  have hstart : tenure (memory.arrival offering).descriptor
      (history ++ [memory.arriving offering true]) = [memory.arriving offering true] :=
    tenure_of_new rfl rfl
  constructor
  · rw [hstart]
    rfl
  · rw [hstart]
    rfl
  · rw [hstart]
    rfl

theorem tells_merge {old : LineageRecord} (tells : old.Tells history)
    (h : old.descriptor = offering.descriptor) :
    (old.merge (memory.arrival offering)).Tells
      (history ++ [memory.arriving offering false]) := by
  have hlonger : tenure (old.merge (memory.arrival offering)).descriptor
      (history ++ [memory.arriving offering false]) =
        tenure old.descriptor history ++ [memory.arriving offering false] :=
    tenure_of_known h.symm rfl
  constructor
  · rw [hlonger, List.map_append, List.sum_append, ← tells.observations]
    rfl
  · rw [hlonger, List.map_append]
    exact max?_concat tells.survivalAge _
  · rw [hlonger, List.getLast?_concat]
    rfl

/-- Whether a memory is tidy and its records say what the offers so far come to. -/
structure Held (history : List Acceptance) (memory : Memory) : Prop where
  tidy : memory.Tidy
  tells : ∀ record ∈ memory.records, record.Tells history

/-- Where a newcomer is taken in, what is kept beside it has the tenure it had. -/
theorem Held.extended (held : memory.Held history)
    (new : memory.find? offering.descriptor = none) {kept : List LineageRecord}
    (hsub : kept.Sublist memory.records) :
    ∀ record ∈ kept ++ [memory.arrival offering],
      record.Tells (history ++ [memory.arriving offering true]) := by
  intro record hrecord
  rcases List.mem_append.mp hrecord with hold | hnew
  · have hmem := hsub.subset hold
    exact tells_of_ne (held.tells record hmem) (find?_eq_none_iff.mp new record hmem).symm true
  · rw [List.mem_singleton.mp hnew]
    exact tells_arrival history

theorem Held.offer (held : memory.Held history) (pos : 0 < memory.config.capacity)
    (offering : Offering) :
    (memory.offer offering).2.Held (history ++ (memory.acceptance? offering).toList) := by
  have houtcome := memory.offer_outcome pos offering
  have htidy := houtcome.tidy held.tidy
  rw [acceptance?]
  generalize memory.offer offering = answer at houtcome htidy ⊢
  refine ⟨htidy, ?_⟩
  cases houtcome with
  | refused =>
      rw [Option.map_none, Option.toList_none, List.append_nil]
      exact held.tells
  | beaten =>
      rw [Option.map_none, Option.toList_none, List.append_nil]
      exact held.tells
  | added passed new room =>
      rw [new]
      exact held.extended new (List.Sublist.refl _)
  | replaced passed new full least better =>
      rw [new]
      exact held.extended new List.filter_sublist
  | @merged old passed known =>
      rw [known]
      have hold := held.tidy.find?_eq_some_iff.mp known
      intro record hrecord
      obtain ⟨kept, hkept, rfl⟩ := List.mem_map.mp hrecord
      split
      · exact tells_merge (held.tells old hold.1) hold.2
      · next hother => exact tells_of_ne (held.tells kept hkept) (Ne.symm hother) false

/-! ## All offers -/

theorem held_offerAll (config : LineageConfig) (pos : 0 < config.capacity)
    (offerings : List Offering) :
    (({ config } : Memory).offerAll offerings).config = config ∧
      (({ config } : Memory).offerAll offerings).Held
        (({ config } : Memory).accepted offerings) := by
  induction offerings using List.reverseRecOn with
  | nil => exact ⟨rfl, fresh_tidy config, fun record hrecord => by cases hrecord⟩
  | append_singleton offerings offering ih =>
      obtain ⟨hconfig, held⟩ := ih
      rw [← hconfig] at pos
      rw [offerAll_concat, accepted_concat]
      have houtcome := offer_outcome pos offering
      exact ⟨houtcome.config_eq.trans hconfig, held.offer pos offering⟩

/-- What is promised of a memory that has come out of some offers. -/
structure Represents (capacity : Nat) (history : List Acceptance) (memory : Memory) : Prop where
  bounded : memory.records.length ≤ capacity
  keyed : ∀ record ∈ memory.records, memory.find? record.descriptor = some record
  numbered : memory.records.Pairwise fun a b => a.sequence ≠ b.sequence
  stamped : ∀ record ∈ memory.records, record.sequence ≤ memory.sequence
  tells : ∀ record ∈ memory.records, record.Tells history
  unordered : ∀ records, records.Perm memory.records →
    strongestOf records = memory.best ∧ weakestOf records = weakestOf memory.records ∧
      ∀ offering, Agree ((memory.holding records).offer offering) (memory.offer offering)
  complete : memory.ranked.Perm memory.records
  descending : memory.ranked.Pairwise fun a b => b.Below a
  best_first : memory.best = memory.ranked.head?
  best_none : memory.best = none ↔ memory.records = []
  accepts : ∀ offering, offering.passes memory.config = true →
    memory.find? offering.descriptor ≠ none ∨ memory.records.length < capacity →
      (memory.offer offering).1.isSome = true
  returns : ∀ offering kept, (memory.offer offering).1 = some kept →
    (memory.offer offering).2.find? offering.descriptor = some kept

theorem offerAll_represents (config : LineageConfig) (pos : 1 ≤ config.capacity)
    (offerings : List Offering) :
    Represents config.capacity (({ config } : Memory).accepted offerings)
      (({ config } : Memory).offerAll offerings) := by
  obtain ⟨hconfig, tidy, tells⟩ := held_offerAll config pos offerings
  have hcapacity := congrArg LineageConfig.capacity hconfig
  have hpos := Nat.lt_of_lt_of_eq pos hcapacity.symm
  exact {
    bounded := tidy.bounded.trans_eq hcapacity
    keyed := fun record hrecord => tidy.find?_eq_some_iff.mpr ⟨hrecord, rfl⟩
    numbered := List.pairwise_map.mp tidy.sequences
    stamped := tidy.stamped
    tells
    unordered := fun records h => ⟨strongestOf_perm tidy.sequences h,
      weakestOf_perm tidy.sequences h, tidy.offer_perm h⟩
    complete := ranked_perm _
    descending := ranked_descending tidy.sequences
    best_first := best_eq_head? tidy.sequences
    best_none := strongestOf_eq_none_iff
    accepts := fun offering passed room => (offer_outcome hpos offering).isSome_of_room passed
      (room.imp_right fun h => Nat.lt_of_lt_of_eq h hcapacity.symm)
    returns := fun _ _ => find?_offer }

/-- Offers to a memory with room for one record: a pattern makes way, comes back, is seen again. -/
def returning : List Offering :=
  [.past ⟨.recurrent 1 16, 6, 0.5, 2, 0⟩, .past ⟨.recurrent 2 16, 7, 0.625, 1, 0⟩,
    .past ⟨.recurrent 1 16, 3, 0.75, 4, 0⟩, .past ⟨.recurrent 1 16, 9, 0.75, 0, 0⟩]

theorem offerAll_represents_returning :
    1 ≤ ({ capacity := 1 } : LineageConfig).capacity ∧
      Represents 1 (({ config := { capacity := 1 } } : Memory).accepted returning)
        (({ config := { capacity := 1 } } : Memory).offerAll returning) ∧
      (({ config := { capacity := 1 } } : Memory).offerAll returning).records.map
        (fun record => (record.observations, record.survivalAge, record.sequence)) =
        [(5, 9, 4)] :=
  ⟨Nat.le_refl 1, offerAll_represents { capacity := 1 } (Nat.le_refl 1) _, by decide +kernel⟩

end Memory

end Vivarium
