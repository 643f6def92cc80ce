import Vivarium.Lineage
import Mathlib.Tactic

/-!
# What becomes of an offer

An offer ends in one of two ways. If it is turned away, the records stay as
they are and at most the sequence number moves on. If it gets through, the
record that is returned is the record that is kept: looking its descriptor up
afterwards finds exactly it. Everything a learner reports, and so everything
that is logged of it, is therefore a total as it stood at the time, never an
increment.
-/

namespace Vivarium

namespace LineageRecord

/-- The record with another sequence number. -/
def stamped (record : LineageRecord) (sequence : Nat) : LineageRecord :=
  { record with sequence }

end LineageRecord

namespace Memory

variable {memory : Memory} {record kept : LineageRecord}

/-- The memory with the sequence number moved on. -/
def counted (memory : Memory) : Memory :=
  { memory with sequence := memory.sequence + 1 }

theorem insert_of_some {old : LineageRecord} (h : memory.find? record.descriptor = some old) :
    memory.insert record =
      (some (old.merge (record.stamped memory.counted.sequence)),
        memory.counted.holding <| memory.records.map fun kept =>
          if kept.descriptor = record.descriptor then
            old.merge (record.stamped memory.counted.sequence)
          else kept) := by
  rw [find?] at h
  rw [insert]
  simp only [find?, h]
  rfl

theorem insert_of_none (h : memory.find? record.descriptor = none) :
    memory.insert record = memory.counted.takeIn (record.stamped memory.counted.sequence) := by
  rw [find?] at h
  rw [insert]
  simp only [find?, h]
  rfl

theorem descriptor_of_find? {d : Descriptor} (h : memory.find? d = some record) :
    record.descriptor = d := by
  have hd : (record.descriptor == d) = true :=
    List.find?_some (p := fun r : LineageRecord => r.descriptor == d) h
  exact beq_iff_eq.mp hd

theorem find?_eq_none_iff {d : Descriptor} :
    memory.find? d = none ↔ ∀ record ∈ memory.records, record.descriptor ≠ d := by
  rw [find?, List.find?_eq_none]
  simp only [beq_iff_eq, ne_eq]

theorem find?_append_of_none {records : List LineageRecord} {d : Descriptor}
    (hnone : ∀ old ∈ records, old.descriptor ≠ d) (hd : record.descriptor = d) :
    (records ++ [record]).find? (·.descriptor == d) = some record := by
  have hrecords : records.find? (·.descriptor == d) = none := by
    rw [List.find?_eq_none]
    simpa only [beq_iff_eq] using hnone
  have hself : (record.descriptor == d) = true := beq_iff_eq.mpr hd
  rw [List.find?_append, hrecords, Option.none_or]
  exact List.find?_cons_of_pos hself

/-! ## A newcomer

A full memory that knows some record at all takes the newcomer only in place of
the weakest one. -/

theorem takeIn_of_none (h : (memory.takeIn record).1 = none) :
    memory.takeIn record = (none, memory) := by
  rw [takeIn] at h ⊢
  split at h
  · cases h
  · next hfull =>
    rw [if_neg hfull]
    split at h
    · cases h
    · split at h
      · next hle => exact if_pos hle
      · cases h

theorem takeIn_of_some (h : (memory.takeIn record).1 = some kept) :
    kept = record ∧ ∃ records : List LineageRecord, records.Sublist memory.records ∧
      memory.takeIn record = (some record, memory.holding (records ++ [record])) := by
  rw [takeIn] at h ⊢
  split at h
  · next hroom =>
    rw [if_pos hroom]
    exact ⟨(Option.some.inj h).symm, _, List.Sublist.refl _, rfl⟩
  · next hfull =>
    rw [if_neg hfull]
    split at h
    · exact ⟨(Option.some.inj h).symm, [], List.nil_sublist _, rfl⟩
    · split at h
      · cases h
      · next hbetter =>
        exact ⟨(Option.some.inj h).symm, _, List.filter_sublist, if_neg hbetter⟩

/-! ## What is returned is what is kept -/

theorem find?_insert (h : (memory.insert record).1 = some kept) :
    (memory.insert record).2.find? record.descriptor = some kept := by
  cases hfind : memory.find? record.descriptor with
  | some old =>
    have hold := descriptor_of_find? hfind
    rw [insert_of_some hfind] at h ⊢
    obtain rfl := Option.some.inj h
    show List.find? _ (List.map _ memory.records) = _
    rw [List.find?_map]
    have hsame : ((fun r : LineageRecord => r.descriptor == record.descriptor) ∘ fun kept =>
        if kept.descriptor = record.descriptor then
          old.merge (record.stamped memory.counted.sequence)
        else kept) = fun r => r.descriptor == record.descriptor := by
      funext r
      rw [Function.comp_apply]
      split
      · next hr =>
        rw [beq_iff_eq.mpr hr]
        exact beq_iff_eq.mpr hold
      · rfl
    rw [find?] at hfind
    rw [hsame, hfind, Option.map_some, if_pos hold]
  | none =>
    have hnone := find?_eq_none_iff.mp hfind
    rw [insert_of_none hfind] at h ⊢
    obtain ⟨rfl, records, hsub, hinsert⟩ := takeIn_of_some h
    rw [hinsert]
    exact find?_append_of_none (fun old hold => hnone old (hsub.subset hold)) rfl

/-! ## Nothing else changes

As long as nothing has to make way, an offer concerns its own descriptor only. -/

theorem takeIn_of_room (h : memory.records.length < memory.config.capacity) :
    memory.takeIn record = (some record, memory.holding (memory.records ++ [record])) := by
  rw [takeIn, if_pos h]

theorem find?_append_of_ne {records : List LineageRecord} {d : Descriptor}
    (hd : record.descriptor ≠ d) :
    (records ++ [record]).find? (·.descriptor == d) = records.find? (·.descriptor == d) := by
  have hself : (record.descriptor == d) = false := beq_eq_false_iff_ne.mpr hd
  rw [List.find?_append, List.find?_cons, hself, List.find?_nil, Option.or_none]

theorem find?_insert_of_ne {old : LineageRecord} {d : Descriptor}
    (h : memory.find? record.descriptor = some old) (hd : d ≠ record.descriptor) :
    (memory.insert record).2.find? d = memory.find? d := by
  have hold := descriptor_of_find? h
  rw [insert_of_some h]
  show List.find? _ (List.map _ memory.records) = List.find? _ memory.records
  induction memory.records with
  | nil => rfl
  | cons first rest ih =>
    rw [List.map_cons, List.find?_cons, List.find?_cons, ih]
    by_cases hfirst : first.descriptor = record.descriptor
    · have hother : (first.descriptor == d) = false :=
        beq_eq_false_iff_ne.mpr fun heq => hd (heq.symm.trans hfirst)
      have hmerged : ((old.merge (record.stamped memory.counted.sequence)).descriptor == d) =
          false :=
        beq_eq_false_iff_ne.mpr fun heq => hd (heq.symm.trans hold)
      rw [if_pos hfirst, hother, hmerged]
    · rw [if_neg hfirst]

theorem map_descriptor_revised {d : Descriptor} {revision : LineageRecord}
    (h : revision.descriptor = d) (records : List LineageRecord) :
    (records.map fun kept => if kept.descriptor = d then revision else kept).map (·.descriptor) =
      records.map (·.descriptor) := by
  rw [List.map_map]
  refine List.map_congr_left fun kept _ => ?_
  rw [Function.comp_apply]
  split
  · next hkept => exact h.trans hkept.symm
  · rfl

theorem descriptors_insert {old : LineageRecord}
    (h : memory.find? record.descriptor = some old) :
    (memory.insert record).2.records.map (·.descriptor) = memory.records.map (·.descriptor) := by
  have hknown := descriptor_of_find? h
  have hold : (old.merge (record.stamped memory.counted.sequence)).descriptor =
      record.descriptor := hknown
  rw [insert_of_some h]
  exact map_descriptor_revised hold memory.records

/-- Whether one memory comes from another by revising the record of a known descriptor. -/
structure Revised (before after : Memory) (record : LineageRecord) : Prop where
  config : after.config = before.config
  descriptors : after.records.map (·.descriptor) = before.records.map (·.descriptor)
  found : after.find? record.descriptor = some record
  others : ∀ d, d ≠ record.descriptor → after.find? d = before.find? d

theorem insert_revised {old : LineageRecord} (h : memory.find? record.descriptor = some old) :
    memory.Revised (memory.insert record).2
      (old.merge (record.stamped memory.counted.sequence)) := by
  have hknown := descriptor_of_find? h
  have hold : (old.merge (record.stamped memory.counted.sequence)).descriptor =
      record.descriptor := hknown
  constructor
  case config =>
    rw [insert_of_some h]
    rfl
  case descriptors => exact descriptors_insert h
  case found =>
    rw [hold]
    exact find?_insert (congrArg Prod.fst (insert_of_some h))
  case others =>
    intro d hd
    exact find?_insert_of_ne h (hold ▸ hd)

/-! ## A cell and a report -/

/-- The record of one cell, before it has a sequence number. -/
def ofCell (cell : Cell) : LineageRecord :=
  { descriptor := cell.descriptor
    survivalAge := cell.age
    meanFitness := cell.meanFitness
    observations := 1
    sequence := 0 }

theorem observe_cases (memory : Memory) (cell : Cell) :
    memory.observe cell = (none, memory) ∨ memory.observe cell = memory.insert (ofCell cell) := by
  rw [observe]
  split
  · exact .inl rfl
  · exact .inr rfl

theorem observe_of_none {cell : Cell} (h : (memory.observe cell).1 = none) :
    (memory.observe cell).2 = memory ∨ (memory.observe cell).2 = memory.counted := by
  rcases observe_cases memory cell with hgate | hinsert
  · rw [hgate]
    exact .inl rfl
  · rw [hinsert] at h ⊢
    cases hfind : memory.find? (ofCell cell).descriptor with
    | some old =>
      rw [insert_of_some hfind] at h
      cases h
    | none =>
      rw [insert_of_none hfind] at h ⊢
      rw [takeIn_of_none h]
      exact .inr rfl

/-- A report is the record of the cell alone, or merged into the record that was there. -/
theorem observe_of_some {cell : Cell} {kept : LineageRecord}
    (hkept : (memory.observe cell).1 = some kept) :
    memory.observe cell = memory.insert (ofCell cell) ∧
      (memory.find? cell.descriptor = none ∧
          kept = (ofCell cell).stamped memory.counted.sequence ∨
        ∃ old, memory.find? cell.descriptor = some old ∧
          kept = old.merge ((ofCell cell).stamped memory.counted.sequence)) := by
  rcases observe_cases memory cell with hgate | hinsert
  · rw [hgate] at hkept
    cases hkept
  · rw [hinsert] at hkept
    refine ⟨hinsert, ?_⟩
    cases hfind : memory.find? (ofCell cell).descriptor with
    | some old =>
      rw [insert_of_some hfind] at hkept
      exact .inr ⟨old, hfind, (Option.some.inj hkept).symm⟩
    | none =>
      rw [insert_of_none hfind] at hkept
      exact .inl ⟨hfind, (takeIn_of_some hkept).1⟩

theorem restore_revised {record old : LineageRecord}
    (hfinite : record.meanFitness.value.isFinite = true)
    (h : memory.find? record.descriptor = some old) :
    ∃ merged, memory.Revised (memory.restore record).2 merged ∧
      merged.descriptor = record.descriptor ∧
      merged.observations = old.observations + max record.observations 1 ∧
      merged.survivalAge = max old.survivalAge record.survivalAge := by
  have hold := descriptor_of_find? h
  rw [restore, if_pos hfinite]
  exact ⟨_, insert_revised h, hold, rfl, rfl⟩

/-! ## What is known of a descriptor -/

/-- What a learner knows of a descriptor: how many cells it was seen in, and the greatest age. -/
def known (memory : Memory) (d : Descriptor) : Option (Nat × Nat) :=
  (memory.find? d).map fun record => (record.observations, record.survivalAge)

theorem known_of_find? {d : Descriptor} (h : memory.find? d = some record) :
    memory.known d = some (record.observations, record.survivalAge) := by
  rw [known, h]
  rfl

end Memory

end Vivarium
