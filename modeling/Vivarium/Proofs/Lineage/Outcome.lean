import Vivarium.Proofs.Lineage.Ranking

/-!
# One offer after another

A memory is offered cells that leave and records of the past. Each kind has a
gate of its own, and behind the gates both are one record that counts for so
many observations. `Outcome` says once what can become of an offer, with the
reason for each way; whatever is said about memories elsewhere is said about
outcomes.

A memory is tidy if it holds no more records than it may, one for each
descriptor, under sequence numbers that differ and have been given out. Offers
keep it tidy: a new number exceeds all that are in use, and what makes room for
a newcomer is taken out before the newcomer is put in. In a tidy memory the
order in which the records are looked through does not matter, neither for
what is found nor for what the next offer comes to.
-/

namespace Vivarium

/-- What a memory can be offered. -/
inductive Offering where
  | leaving (cell : Cell)
  | past (record : LineageRecord)

namespace Offering

/-- The record that an offering comes to, before it has a sequence number. -/
def record : Offering → LineageRecord
  | .leaving cell => Memory.ofCell cell
  | .past record => { record with observations := max record.observations 1 }

/-- The descriptor that an offering is about. -/
def descriptor (offering : Offering) : Descriptor :=
  offering.record.descriptor

/-- Whether an offering gets past its gate. -/
def passes (config : LineageConfig) : Offering → Bool
  | .leaving cell => !(cell.age < config.survivalAge || cell.meanFitness.value ≤ config.cutoff)
  | .past record => record.meanFitness.value.isFinite

end Offering

namespace Memory

variable {memory : Memory} {offering : Offering} {answer : Offer}

/-- Makes an offer. -/
def offer (memory : Memory) : Offering → Offer
  | .leaving cell => memory.observe cell
  | .past record => memory.restore record

/-- The memory after some offers, one after another. -/
def offerAll (memory : Memory) (offerings : List Offering) : Memory :=
  offerings.foldl (fun memory offering => (memory.offer offering).2) memory

theorem offerAll_concat (memory : Memory) (offerings : List Offering) (offering : Offering) :
    memory.offerAll (offerings ++ [offering]) =
      ((memory.offerAll offerings).offer offering).2 := by
  rw [offerAll, List.foldl_append]
  rfl

/-- The record of an offering under the next sequence number. -/
def arrival (memory : Memory) (offering : Offering) : LineageRecord :=
  offering.record.stamped memory.counted.sequence

/-- What can become of an offer. -/
inductive Outcome (memory : Memory) (offering : Offering) : Offer → Prop where
  | refused (shut : offering.passes memory.config = false) : Outcome memory offering (none, memory)
  | merged {old : LineageRecord} (passed : offering.passes memory.config = true)
      (known : memory.find? offering.descriptor = some old) :
      Outcome memory offering (some (old.merge (memory.arrival offering)),
        memory.counted.holding <| memory.records.map fun kept =>
          if kept.descriptor = offering.descriptor then old.merge (memory.arrival offering)
          else kept)
  | added (passed : offering.passes memory.config = true)
      (new : memory.find? offering.descriptor = none)
      (room : memory.records.length < memory.config.capacity) :
      Outcome memory offering (some (memory.arrival offering),
        memory.counted.holding (memory.records ++ [memory.arrival offering]))
  | replaced {weakest : LineageRecord} (passed : offering.passes memory.config = true)
      (new : memory.find? offering.descriptor = none)
      (full : memory.config.capacity ≤ memory.records.length)
      (least : weakestOf memory.records = some weakest)
      (better : ¬ offering.record.meanFitness.value ≤ weakest.meanFitness.value) :
      Outcome memory offering (some (memory.arrival offering),
        memory.counted.holding
          (without memory.records weakest.descriptor ++ [memory.arrival offering]))
  | beaten {weakest : LineageRecord} (passed : offering.passes memory.config = true)
      (new : memory.find? offering.descriptor = none)
      (full : memory.config.capacity ≤ memory.records.length)
      (least : weakestOf memory.records = some weakest)
      (noBetter : offering.record.meanFitness.value ≤ weakest.meanFitness.value) :
      Outcome memory offering (none, memory.counted)

theorem offer_of_passes (h : offering.passes memory.config = true) :
    memory.offer offering = memory.insert offering.record := by
  cases offering with
  | leaving cell =>
      rw [Offering.passes, Bool.not_eq_true'] at h
      rw [offer, observe, h]
      rfl
  | past record =>
      rw [Offering.passes] at h
      rw [offer, restore, if_pos h]
      rfl

theorem offer_of_not_passes (h : offering.passes memory.config = false) :
    memory.offer offering = (none, memory) := by
  cases offering with
  | leaving cell =>
      rw [Offering.passes, Bool.not_eq_false'] at h
      rw [offer, observe, if_pos h]
  | past record =>
      rw [Offering.passes] at h
      rw [offer, restore, h]
      rfl

theorem offer_outcome (pos : 0 < memory.config.capacity) (offering : Offering) :
    memory.Outcome offering (memory.offer offering) := by
  cases hpasses : offering.passes memory.config with
  | false =>
      rw [offer_of_not_passes hpasses]
      exact .refused hpasses
  | true =>
      rw [offer_of_passes hpasses]
      cases hfind : memory.find? offering.descriptor with
      | some old =>
          rw [insert_of_some hfind]
          exact .merged hpasses hfind
      | none =>
          rw [insert_of_none hfind, takeIn]
          split
          · next hroom => exact .added hpasses hfind hroom
          · next hfull =>
              have hfull : memory.config.capacity ≤ memory.records.length := Nat.le_of_not_lt hfull
              split
              · next hnone =>
                  -- A full memory is empty only if there is no room at all.
                  have hempty : memory.records = [] := weakestOf_eq_none_iff.mp hnone
                  rw [hempty, List.length_nil] at hfull
                  omega
              · next weakest hleast =>
                  split
                  · next hle => exact .beaten hpasses hfind hfull hleast hle
                  · next hnot => exact .replaced hpasses hfind hfull hleast hnot

theorem Outcome.config_eq (h : memory.Outcome offering answer) :
    answer.2.config = memory.config := by
  cases h <;> rfl

/-- What an offer leaves is about descriptors that were known, or about the one offered. -/
theorem Outcome.descriptor_of_mem (h : memory.Outcome offering answer) {record : LineageRecord}
    (hrecord : record ∈ answer.2.records) :
    (∃ old ∈ memory.records, record.descriptor = old.descriptor) ∨
      record.descriptor = offering.descriptor := by
  cases h with
  | refused | beaten => exact .inl ⟨record, hrecord, rfl⟩
  | merged _ known =>
      obtain ⟨kept, hkept, rfl⟩ := List.mem_map.mp hrecord
      split
      · have hold := descriptor_of_find? known
        exact .inr hold
      · exact .inl ⟨kept, hkept, rfl⟩
  | added =>
      rcases List.mem_append.mp hrecord with hold | hnew
      · exact .inl ⟨record, hold, rfl⟩
      · obtain rfl := List.mem_singleton.mp hnew
        exact .inr rfl
  | replaced =>
      rcases List.mem_append.mp hrecord with hold | hnew
      · exact .inl ⟨record, List.mem_of_mem_filter hold, rfl⟩
      · obtain rfl := List.mem_singleton.mp hnew
        exact .inr rfl

/-- What gets past its gate is kept if its descriptor is known or there is room. -/
theorem Outcome.isSome_of_room (h : memory.Outcome offering answer)
    (passed : offering.passes memory.config = true)
    (room : memory.find? offering.descriptor ≠ none ∨
      memory.records.length < memory.config.capacity) : answer.1.isSome = true := by
  cases h with
  | refused shut =>
      rw [passed] at shut
      cases shut
  | merged => rfl
  | added => rfl
  | replaced => rfl
  | beaten _ new full =>
      rcases room with known | room
      · exact absurd new known
      · omega

theorem find?_offer {kept : LineageRecord} (h : (memory.offer offering).1 = some kept) :
    (memory.offer offering).2.find? offering.descriptor = some kept := by
  cases hpasses : offering.passes memory.config with
  | false =>
      rw [offer_of_not_passes hpasses] at h
      cases h
  | true =>
      rw [offer_of_passes hpasses] at h ⊢
      exact find?_insert h

/-! ## Tidy memories -/

/-- Whether a memory holds what it may, under numbers that it has given out. -/
structure Tidy (memory : Memory) : Prop where
  bounded : memory.records.length ≤ memory.config.capacity
  descriptors : (memory.records.map (·.descriptor)).Nodup
  sequences : (memory.records.map (·.sequence)).Nodup
  stamped : ∀ record ∈ memory.records, record.sequence ≤ memory.sequence

theorem fresh_tidy (config : LineageConfig) : ({ config } : Memory).Tidy :=
  ⟨Nat.zero_le _, List.nodup_nil, List.nodup_nil, by simp⟩

theorem Tidy.eq_of_descriptor_eq (tidy : memory.Tidy) {a b : LineageRecord}
    (ha : a ∈ memory.records) (hb : b ∈ memory.records) (h : a.descriptor = b.descriptor) :
    a = b :=
  List.inj_on_of_nodup_map tidy.descriptors ha hb h

theorem Tidy.find?_eq_some_iff (tidy : memory.Tidy) {d : Descriptor} {record : LineageRecord} :
    memory.find? d = some record ↔ record ∈ memory.records ∧ record.descriptor = d := by
  refine ⟨fun h => ⟨List.mem_of_find?_eq_some h, descriptor_of_find? h⟩, fun ⟨hmem, hd⟩ => ?_⟩
  obtain ⟨other, hother⟩ := Option.ne_none_iff_exists'.mp
    (mt find?_eq_none_iff.mp fun hnone => hnone record hmem hd)
  have hsame := tidy.eq_of_descriptor_eq (List.mem_of_find?_eq_some hother) hmem
    ((descriptor_of_find? hother).trans hd.symm)
  rw [hother, hsame]

theorem Tidy.counted (tidy : memory.Tidy) : memory.counted.Tidy where
  bounded := tidy.bounded
  descriptors := tidy.descriptors
  sequences := tidy.sequences
  stamped record hrecord := Nat.le_succ_of_le (tidy.stamped record hrecord)

theorem nodup_map_concat {f : LineageRecord → α} {kept : List LineageRecord}
    (h : (kept.map f).Nodup) {new : LineageRecord} (hnew : ∀ old ∈ kept, f old ≠ f new) :
    ((kept ++ [new]).map f).Nodup := by
  have hnotin : f new ∉ kept.map f := by
    rw [List.mem_map]
    rintro ⟨old, hold, heq⟩
    exact hnew old hold heq
  rw [List.map_append, List.map_singleton, ← List.concat_eq_append]
  exact h.concat hnotin

/-- A newcomer may join whatever is left of a tidy memory, if that leaves room. -/
theorem Tidy.extended (tidy : memory.Tidy) (new : memory.find? offering.descriptor = none)
    {kept : List LineageRecord} (hsub : kept.Sublist memory.records)
    (room : kept.length < memory.config.capacity) :
    (memory.counted.holding (kept ++ [memory.arrival offering])).Tidy := by
  have hstamped := fun record hrecord => tidy.stamped record (hsub.subset hrecord)
  constructor
  case bounded =>
    show (kept ++ [memory.arrival offering]).length ≤ memory.config.capacity
    rw [List.length_append, List.length_singleton]
    exact room
  case descriptors =>
    refine nodup_map_concat (tidy.descriptors.sublist (hsub.map _)) fun old hold => ?_
    exact find?_eq_none_iff.mp new old (hsub.subset hold)
  case sequences =>
    refine nodup_map_concat (tidy.sequences.sublist (hsub.map _)) fun old hold => ?_
    exact Nat.ne_of_lt (Nat.lt_succ_of_le (hstamped old hold))
  case stamped =>
    intro record hrecord
    rcases List.mem_append.mp hrecord with hold | hnew
    · exact Nat.le_succ_of_le (hstamped record hold)
    · rw [List.mem_singleton.mp hnew]
      exact Nat.le_refl _

/-- Revising the record of one descriptor, under the next number. -/
theorem Tidy.revised (tidy : memory.Tidy) {d : Descriptor} {revision : LineageRecord}
    (hd : revision.descriptor = d) (hnumber : revision.sequence = memory.counted.sequence) :
    (memory.counted.holding <| memory.records.map fun kept =>
      if kept.descriptor = d then revision else kept).Tidy := by
  have hnodup : memory.records.Nodup := tidy.descriptors.of_map
  constructor
  case bounded =>
    show (memory.records.map _).length ≤ memory.config.capacity
    rw [List.length_map]
    exact tidy.bounded
  case descriptors =>
    show ((memory.records.map _).map _).Nodup
    rw [map_descriptor_revised hd]
    exact tidy.descriptors
  case sequences =>
    show ((memory.records.map _).map _).Nodup
    rw [List.map_map]
    -- The next number is above all others, so only the revised record has it.
    refine (List.nodup_map_iff_inj_on hnodup).mpr fun x hx y hy heq => ?_
    have hxle := tidy.stamped x hx
    have hyle := tidy.stamped y hy
    have hnext : memory.counted.sequence = memory.sequence + 1 := rfl
    simp only [Function.comp_apply] at heq
    split at heq
    · next hxd =>
        split at heq
        · next hyd => exact tidy.eq_of_descriptor_eq hx hy (hxd.trans hyd.symm)
        · omega
    · split at heq
      · omega
      · exact List.inj_on_of_nodup_map tidy.sequences hx hy heq
  case stamped =>
    intro record hrecord
    obtain ⟨kept, hkept, rfl⟩ := List.mem_map.mp hrecord
    split
    · exact Nat.le_of_eq hnumber
    · exact Nat.le_succ_of_le (tidy.stamped kept hkept)

/-- Taking the record of a descriptor out of a tidy memory takes out that record only. -/
theorem Tidy.perm_without (tidy : memory.Tidy) {record : LineageRecord}
    (h : record ∈ memory.records) :
    memory.records.Perm (record :: without memory.records record.descriptor) := by
  obtain ⟨before, after, hsplit⟩ := List.append_of_mem h
  have hothers : ∀ other ∈ before ++ after, (other.descriptor != record.descriptor) = true := by
    have hdistinct := tidy.descriptors
    rw [hsplit, (List.perm_middle.map _).nodup_iff, List.map_cons, List.nodup_cons] at hdistinct
    intro other hother
    rw [bne_iff_ne]
    intro heq
    exact hdistinct.1 (heq ▸ List.mem_map_of_mem hother)
  have hself : (record.descriptor != record.descriptor) = false := by simp
  rw [List.forall_mem_append] at hothers
  rw [without, hsplit, List.filter_append, List.filter_cons_of_neg (by simp),
    List.filter_eq_self.mpr hothers.1, List.filter_eq_self.mpr hothers.2]
  exact List.perm_middle

theorem length_without_lt {weakest : LineageRecord} (h : weakest ∈ memory.records) :
    (without memory.records weakest.descriptor).length < memory.records.length := by
  rw [without, List.length_filter_lt_length_iff_exists]
  exact ⟨weakest, h, by simp⟩

theorem Outcome.tidy (h : memory.Outcome offering answer) (tidy : memory.Tidy) :
    answer.2.Tidy := by
  cases h with
  | refused => exact tidy
  | merged passed known =>
      have hold := descriptor_of_find? known
      exact tidy.revised hold rfl
  | added passed new room => exact tidy.extended new (List.Sublist.refl _) room
  | replaced passed new full least better =>
      have hmem := (weakestOf_least least).1
      refine tidy.extended new List.filter_sublist ?_
      exact Nat.lt_of_lt_of_le (length_without_lt hmem) tidy.bounded
  | beaten => exact tidy.counted

/-! ## The order of looking through -/

section Order

variable {records : List LineageRecord}

theorem Tidy.perm (tidy : memory.Tidy) (h : records.Perm memory.records) :
    (memory.holding records).Tidy where
  bounded := Nat.le_trans (Nat.le_of_eq h.length_eq) tidy.bounded
  descriptors := (h.map (·.descriptor)).nodup_iff.mpr tidy.descriptors
  sequences := (h.map (·.sequence)).nodup_iff.mpr tidy.sequences
  stamped record hrecord := tidy.stamped record (h.mem_iff.mp hrecord)

theorem Tidy.find?_perm (tidy : memory.Tidy) (h : records.Perm memory.records) (d : Descriptor) :
    (memory.holding records).find? d = memory.find? d := by
  refine Option.ext fun record => ?_
  rw [(tidy.perm h).find?_eq_some_iff, tidy.find?_eq_some_iff]
  exact and_congr_left' h.mem_iff

/-- Whether two answers to an offer are the same but for the order of the records. -/
structure Agree (a b : Offer) : Prop where
  answer : a.1 = b.1
  sequence : a.2.sequence = b.2.sequence
  records : a.2.records.Perm b.2.records

theorem Tidy.takeIn_perm (tidy : memory.Tidy) (h : records.Perm memory.records)
    (record : LineageRecord) :
    Agree ((memory.holding records).takeIn record) (memory.takeIn record) := by
  have hweakest := weakestOf_perm tidy.sequences h
  unfold takeIn holding
  simp only [h.length_eq, hweakest]
  split
  · exact ⟨rfl, rfl, h.append_right _⟩
  · split
    · exact ⟨rfl, rfl, List.Perm.refl _⟩
    · split
      · exact ⟨rfl, rfl, h⟩
      · exact ⟨rfl, rfl, (h.filter _).append_right _⟩

theorem Tidy.offer_perm (tidy : memory.Tidy) (h : records.Perm memory.records)
    (offering : Offering) :
    Agree ((memory.holding records).offer offering) (memory.offer offering) := by
  have hfind := tidy.find?_perm h offering.descriptor
  cases hpasses : offering.passes memory.config with
  | false =>
      have hsame : (memory.holding records).offer offering = (none, memory.holding records) :=
        offer_of_not_passes hpasses
      rw [hsame, offer_of_not_passes hpasses]
      exact ⟨rfl, rfl, h⟩
  | true =>
      have hsame : (memory.holding records).offer offering =
          (memory.holding records).insert offering.record := offer_of_passes hpasses
      rw [hsame, offer_of_passes hpasses]
      cases hknown : memory.find? offering.descriptor with
      | some old =>
          rw [insert_of_some (hfind.trans hknown), insert_of_some hknown]
          exact ⟨rfl, rfl, h.map _⟩
      | none =>
          rw [insert_of_none (hfind.trans hknown), insert_of_none hknown]
          exact tidy.counted.takeIn_perm h _

end Order

end Memory

end Vivarium
