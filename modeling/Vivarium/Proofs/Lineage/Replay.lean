import Vivarium.Proofs.Lineage.Offer
import Mathlib.Data.List.Forall2

/-!
# When the log of a learner replays faithfully

A learner that observes cells reports a record for each one it keeps, and the
log keeps those reports in order. Replaying the log restores the reports, one
after another, into another learner with the same configuration.

A report is a total, and restoring merges it as if it were an increment. So a
descriptor that is reported twice counts for one cell and then for two on top
of that, three where two were seen, and its mean is weighted accordingly, which
may change who is evicted later. The replay is faithful exactly as long as no
report tells of a second cell: then the two learners stay in step, record by
record, although their sequence numbers drift apart, because an offer that is
turned away takes a number and leaves no report. (A report whose mean is no
number is refused by the replay, so it does not do either.)

The sequence numbers decide ties between records. What carries the proof is
that both lists of records ascend in them, so that a tie is decided the same
way on both sides whatever the numbers are.
-/

namespace Vivarium

open Number

namespace LineageRecord

/-- Two records of the same single cell; their sequence numbers may differ. -/
structure Alike (x y : LineageRecord) : Prop where
  descriptor : x.descriptor = y.descriptor
  survivalAge : x.survivalAge = y.survivalAge
  meanFitness : x.meanFitness = y.meanFitness
  single : x.observations = 1
  single' : y.observations = 1

/-- A record of one cell that a replay takes. -/
structure Plain (record : LineageRecord) : Prop where
  single : record.observations = 1
  finite : record.meanFitness.value.isFinite = true

theorem le_of_earlier {x y : LineageRecord} (h : x.sequence < y.sequence) :
    x.le y = true ↔ rank x.meanFitness ≤ rank y.meanFitness := by
  rw [le]
  split
  · next heq =>
    rw [decide_eq_true_eq, heq]
    exact ⟨fun _ => Int.le_refl _, fun _ => Nat.le_of_lt h⟩
  · next hne =>
    rw [decide_eq_true_eq]
    omega

end LineageRecord

namespace Memory

open LineageRecord

/-! ## Two learners in step -/

/-- Whether the sequence numbers of the records ascend, up to the number of the last offer. -/
structure Stamped (memory : Memory) : Prop where
  ascending : memory.records.Pairwise fun x y => x.sequence < y.sequence
  bounded : ∀ record ∈ memory.records, record.sequence ≤ memory.sequence

/-- Whether two learners keep records of the same single cells, in the same order. -/
structure InStep (a b : Memory) : Prop where
  config : a.config = b.config
  records : List.Forall₂ Alike a.records b.records
  stamped : a.Stamped
  stamped' : b.Stamped

variable {a b memory : Memory}

theorem Stamped.counted (h : memory.Stamped) : memory.counted.Stamped :=
  ⟨h.ascending, fun record hrecord => Nat.le_succ_of_le (h.bounded record hrecord)⟩

theorem Stamped.extended (h : memory.Stamped) {records : List LineageRecord}
    (hsub : records.Sublist memory.records) (record : LineageRecord) :
    (memory.counted.holding (records ++ [record.stamped memory.counted.sequence])).Stamped := by
  constructor
  · refine List.pairwise_append.mpr ⟨h.ascending.sublist hsub, List.pairwise_singleton _ _, ?_⟩
    intro old hold new hnew
    rw [List.mem_singleton] at hnew
    subst hnew
    exact Nat.lt_succ_of_le (h.bounded old (hsub.subset hold))
  · intro kept hkept
    rcases List.mem_append.mp hkept with hold | hnew
    · exact Nat.le_succ_of_le (h.bounded kept (hsub.subset hold))
    · rw [List.mem_singleton] at hnew
      rw [hnew]
      exact Nat.le_refl _

theorem find?_alike {xs ys : List LineageRecord} (h : List.Forall₂ Alike xs ys) (d : Descriptor) :
    Option.Rel Alike (xs.find? (·.descriptor == d)) (ys.find? (·.descriptor == d)) := by
  induction h with
  | nil => exact .none
  | @cons x y xs ys hxy _ ih =>
    rw [List.find?_cons, List.find?_cons, hxy.descriptor]
    cases y.descriptor == d with
    | true => exact .some hxy
    | false => exact ih

/-- The weaker of two records stays ahead of the rest, so that the fold may go on. -/
theorem weakest_alike {xs ys : List LineageRecord} (h : List.Forall₂ Alike xs ys) :
    ∀ {x y : LineageRecord}, Alike x y →
      (x :: xs).Pairwise (fun x y => x.sequence < y.sequence) →
      (y :: ys).Pairwise (fun x y => x.sequence < y.sequence) →
      Alike (xs.foldl (fun a b => if a.le b then a else b) x)
        (ys.foldl (fun a b => if a.le b then a else b) y) := by
  induction h with
  | nil => exact fun hxy _ _ => hxy
  | @cons x' y' xs ys hxy' _ ih =>
    intro x y hxy hx hy
    obtain ⟨hxfirst, hxrest⟩ := List.pairwise_cons.mp hx
    obtain ⟨hyfirst, hyrest⟩ := List.pairwise_cons.mp hy
    have hxle := le_of_earlier (hxfirst x' List.mem_cons_self)
    have hyle := le_of_earlier (hyfirst y' List.mem_cons_self)
    rw [hxy.meanFitness, hxy'.meanFitness, ← hyle] at hxle
    rw [List.foldl_cons, List.foldl_cons]
    by_cases hle : y.le y' = true
    · rw [if_pos hle, if_pos (hxle.mpr hle)]
      refine ih hxy (hx.sublist ?_) (hy.sublist ?_)
      · exact (List.sublist_cons_self x' xs).cons_cons x
      · exact (List.sublist_cons_self y' ys).cons_cons y
    · rw [if_neg hle, if_neg (mt hxle.mp hle)]
      exact ih hxy' hxrest hyrest

theorem weakestOf_alike {xs ys : List LineageRecord} (h : List.Forall₂ Alike xs ys)
    (hx : xs.Pairwise fun x y => x.sequence < y.sequence)
    (hy : ys.Pairwise fun x y => x.sequence < y.sequence) :
    Option.Rel Alike (weakestOf xs) (weakestOf ys) := by
  cases h with
  | nil => exact .none
  | cons hxy hrest => exact .some (weakest_alike hrest hxy hx hy)

theorem without_alike {xs ys : List LineageRecord} (h : List.Forall₂ Alike xs ys)
    (d : Descriptor) : List.Forall₂ Alike (without xs d) (without ys d) := by
  refine List.rel_filter (fun x y hxy => ?_) h
  show (x.descriptor != d) = true ↔ (y.descriptor != d) = true
  rw [hxy.descriptor]

theorem append_alike {xs ys : List LineageRecord} (h : List.Forall₂ Alike xs ys)
    {x y : LineageRecord} (hxy : Alike x y) : List.Forall₂ Alike (xs ++ [x]) (ys ++ [y]) :=
  List.rel_append h (.cons hxy .nil)

theorem InStep.find?_alike (h : InStep a b) (d : Descriptor) :
    Option.Rel Alike (a.find? d) (b.find? d) :=
  Memory.find?_alike h.records d

theorem InStep.find?_none (h : InStep a b) {d : Descriptor} (hnone : a.find? d = none) :
    b.find? d = none := by
  have hrel := h.find?_alike d
  rw [hnone] at hrel
  generalize b.find? d = found at hrel ⊢
  cases hrel with
  | none => rfl

theorem InStep.find?_some (h : InStep a b) {d : Descriptor} {old : LineageRecord}
    (hold : a.find? d = some old) : ∃ old', b.find? d = some old' ∧ Alike old old' := by
  have hrel := h.find?_alike d
  rw [hold] at hrel
  generalize b.find? d = found at hrel ⊢
  cases hrel with
  | some halike => exact ⟨_, rfl, halike⟩

/-- Learners in step know the same. -/
theorem InStep.known (h : InStep a b) (d : Descriptor) : a.known d = b.known d := by
  have hrel := h.find?_alike d
  rw [Memory.known, Memory.known]
  generalize a.find? d = left at hrel ⊢
  generalize b.find? d = right at hrel ⊢
  cases hrel with
  | none => rfl
  | some halike =>
    rw [Option.map_some, Option.map_some, halike.single, halike.single', halike.survivalAge]

/-! ## One offer on each side -/

/-- Offering alike newcomers to learners in step: the first side takes it, so does the second. -/
theorem takeIn_alike (hconfig : a.config = b.config)
    (hrecords : List.Forall₂ Alike a.records b.records)
    (hweakest : Option.Rel Alike (weakestOf a.records) (weakestOf b.records))
    {x y kept : LineageRecord} (hxy : Alike x y) (h : (a.takeIn x).1 = some kept) :
    (b.takeIn y).1 = some y ∧
      List.Forall₂ Alike (a.takeIn x).2.records (b.takeIn y).2.records := by
  rw [takeIn, hrecords.length_eq, hconfig] at h
  rw [takeIn, takeIn, hrecords.length_eq, hconfig]
  by_cases hroom : b.records.length < b.config.capacity
  · rw [if_pos hroom, if_pos hroom]
    exact ⟨rfl, append_alike hrecords hxy⟩
  · rw [if_neg hroom] at h
    rw [if_neg hroom, if_neg hroom]
    generalize weakestOf a.records = u at hweakest h
    generalize weakestOf b.records = v at hweakest
    cases hweakest with
    | none => exact ⟨rfl, .cons hxy .nil⟩
    | some huv =>
      simp only [hxy.meanFitness, huv.meanFitness] at h ⊢
      split at h
      · cases h
      · next hbetter =>
        rw [if_neg hbetter, if_neg hbetter, huv.descriptor]
        exact ⟨rfl, append_alike (without_alike hrecords _) hxy⟩

/-- A newcomer that is taken on the first side and restored from its report on the second. -/
theorem InStep.insert_newcomer (h : InStep a b) {x y kept : LineageRecord} (hxy : Alike x y)
    (hnone : a.find? x.descriptor = none) (hkept : (a.insert x).1 = some kept) :
    InStep (a.insert x).2 (b.insert y).2 := by
  have hnone' : b.find? y.descriptor = none := hxy.descriptor ▸ h.find?_none hnone
  have hstamped : Alike (x.stamped a.counted.sequence) (y.stamped b.counted.sequence) :=
    ⟨hxy.descriptor, hxy.survivalAge, hxy.meanFitness, hxy.single, hxy.single'⟩
  have hweakest := weakestOf_alike h.records h.stamped.ascending h.stamped'.ascending
  rw [insert_of_none hnone] at hkept
  rw [insert_of_none hnone, insert_of_none hnone']
  obtain ⟨htaken, hrecords⟩ :=
    takeIn_alike (a := a.counted) (b := b.counted) h.config h.records hweakest hstamped hkept
  obtain ⟨-, left, hleft, hinsert⟩ := takeIn_of_some hkept
  obtain ⟨-, right, hright, hinsert'⟩ := takeIn_of_some htaken
  constructor
  case config =>
    rw [hinsert, hinsert']
    exact h.config
  case records => exact hrecords
  case stamped =>
    rw [hinsert]
    exact h.stamped.extended hleft x
  case stamped' =>
    rw [hinsert']
    exact h.stamped'.extended hright y

theorem InStep.observe_none (h : InStep a b) {cell : Cell} (hnone : (a.observe cell).1 = none) :
    InStep (a.observe cell).2 b := by
  rcases observe_of_none hnone with hsame | hcounted
  · rw [hsame]
    exact h
  · rw [hcounted]
    exact ⟨h.config, h.records, h.stamped.counted, h.stamped'⟩

theorem restore_of_plain {record : LineageRecord} (h : record.Plain) :
    memory.restore record = memory.insert record := by
  rw [restore, if_pos h.finite, h.single]
  rw [show max 1 1 = record.observations from h.single.symm]

theorem InStep.observe_some (h : InStep a b) {cell : Cell} {kept : LineageRecord}
    (hkept : (a.observe cell).1 = some kept) (plain : kept.Plain) :
    InStep (a.observe cell).2 (b.restore kept).2 := by
  obtain ⟨hinsert, ⟨hnone, rfl⟩ | ⟨old, hfind, rfl⟩⟩ := observe_of_some hkept
  · rw [hinsert] at hkept
    rw [restore_of_plain plain, hinsert]
    exact h.insert_newcomer ⟨rfl, rfl, rfl, rfl, plain.single⟩ hnone hkept
  · obtain ⟨_, -, halike⟩ := h.find?_some hfind
    have hcount : old.observations + 1 = 1 := plain.single
    rw [halike.single] at hcount
    cases hcount

/-- Where a report is not plain, its replay parts the learners at once. -/
theorem InStep.parted (h : InStep a b) {cell : Cell} {kept : LineageRecord}
    (hkept : (a.observe cell).1 = some kept) (hnot : ¬kept.Plain) :
    (a.observe cell).2.known cell.descriptor ≠ (b.restore kept).2.known cell.descriptor := by
  obtain ⟨hinsert, hreport⟩ := observe_of_some hkept
  have hleft : (a.observe cell).2.known cell.descriptor =
      some (kept.observations, kept.survivalAge) := by
    rw [hinsert] at hkept ⊢
    exact known_of_find? (find?_insert hkept)
  rw [hleft]
  intro heq
  by_cases hfinite : kept.meanFitness.value.isFinite = true
  · rcases hreport with ⟨-, rfl⟩ | ⟨old, hfind, hmerge⟩
    · exact hnot ⟨rfl, hfinite⟩
    -- The report counts what was known before it, which the other side adds to what it knows.
    · obtain ⟨old', hold', halike⟩ := h.find?_some hfind
      have hold := descriptor_of_find? hfind
      have hd : kept.descriptor = cell.descriptor := by
        rw [hmerge]
        exact hold
      have hseen : kept.observations = old.observations + 1 := by
        rw [hmerge]
        rfl
      rw [← hd] at hold' heq
      obtain ⟨merged, hrevised, hmerged, hcounted, -⟩ := restore_revised hfinite hold'
      rw [← hmerged, known_of_find? hrevised.found] at heq
      have hcount : kept.observations = merged.observations :=
        congrArg Prod.fst (Option.some.inj heq)
      rw [hcounted, halike.single'] at hcount
      omega
  -- A mean that is not finite is never restored, so the other side stays as it was.
  · rw [restore, if_neg hfinite, ← h.known, Memory.known] at heq
    rcases hreport with ⟨hnone, -⟩ | ⟨old, hfind, rfl⟩
    · rw [hnone] at heq
      cases heq
    · rw [hfind] at heq
      have hcount : old.observations + 1 = old.observations :=
        congrArg Prod.fst (Option.some.inj heq)
      omega

/-! ## A whole history -/

theorem observeAll_cons (memory : Memory) (cell : Cell) (rest : List Cell) :
    memory.observeAll (cell :: rest) =
      ((memory.observe cell).1.toList ++ ((memory.observe cell).2.observeAll rest).1,
        ((memory.observe cell).2.observeAll rest).2) := rfl

theorem observeAll_append (memory : Memory) (cells more : List Cell) :
    memory.observeAll (cells ++ more) =
      ((memory.observeAll cells).1 ++ ((memory.observeAll cells).2.observeAll more).1,
        ((memory.observeAll cells).2.observeAll more).2) := by
  induction cells generalizing memory with
  | nil => rfl
  | cons cell rest ih =>
    rw [List.cons_append, observeAll_cons, observeAll_cons, ih, List.append_assoc]

theorem restoreAll_append (memory : Memory) (records more : List LineageRecord) :
    (memory.restoreAll (records ++ more)).2 =
      ((memory.restoreAll records).2.restoreAll more).2 := by
  induction records generalizing memory with
  | nil => rfl
  | cons record rest ih =>
    rw [List.cons_append, restoreAll, restoreAll]
    exact ih _

/-- What is logged while a new learner observes some cells. -/
def log (config : LineageConfig) (cells : List Cell) : List LineageRecord :=
  (observeAll { config } cells).1

/-- The learner that observed some cells. -/
def learned (config : LineageConfig) (cells : List Cell) : Memory :=
  (observeAll { config } cells).2

/-- The learner that was restored from the log of some cells. -/
def relearned (config : LineageConfig) (cells : List Cell) : Memory :=
  (restoreAll { config } (log config cells)).2

variable (config : LineageConfig) (cells : List Cell)

theorem log_append (more : List Cell) :
    log config (cells ++ more) = log config cells ++ ((learned config cells).observeAll more).1 := by
  rw [log, observeAll_append]
  rfl

theorem learned_concat (cell : Cell) :
    learned config (cells ++ [cell]) = ((learned config cells).observe cell).2 := by
  rw [learned, observeAll_append]
  rfl

theorem log_concat (cell : Cell) :
    log config (cells ++ [cell]) =
      log config cells ++ ((learned config cells).observe cell).1.toList := by
  rw [log_append, observeAll_cons]
  exact congrArg _ (List.append_nil _)

theorem relearned_concat (cell : Cell) :
    relearned config (cells ++ [cell]) =
      match ((learned config cells).observe cell).1 with
      | none => relearned config cells
      | some kept => ((relearned config cells).restore kept).2 := by
  rw [relearned, log_concat, restoreAll_append]
  cases ((learned config cells).observe cell).1 with
  | none => rfl
  | some kept => rfl

variable {config cells}

theorem inStep_of_plain (plain : ∀ record ∈ log config cells, record.Plain) :
    InStep (learned config cells) (relearned config cells) := by
  induction cells using List.reverseRecOn with
  | nil =>
    have stamped : Stamped { config } := ⟨.nil, fun _ hrecord => nomatch hrecord⟩
    exact ⟨rfl, .nil, stamped, stamped⟩
  | append_singleton cells cell ih =>
    rw [log_concat] at plain
    have before := ih fun record hrecord => plain record (List.mem_append_left _ hrecord)
    rw [learned_concat, relearned_concat]
    cases hkept : ((learned config cells).observe cell).1 with
    | none => exact before.observe_none hkept
    | some kept =>
      refine before.observe_some hkept (plain kept (List.mem_append_right _ ?_))
      rw [hkept]
      exact List.mem_singleton_self kept

theorem plain_of_known
    (agree : ∀ past, past <+: cells → ∀ d,
      (learned config past).known d = (relearned config past).known d) :
    ∀ record ∈ log config cells, record.Plain := by
  induction cells using List.reverseRecOn with
  | nil => exact fun _ hrecord => nomatch hrecord
  | append_singleton cells cell ih =>
    have before := ih fun past hpast => agree past (hpast.trans (List.prefix_append _ _))
    intro record hrecord
    rw [log_concat] at hrecord
    rcases List.mem_append.mp hrecord with hpast | hlast
    · exact before record hpast
    · by_contra hnot
      have hkept := Option.mem_toList.mp hlast
      have hnow := agree _ (List.prefix_refl _) cell.descriptor
      rw [learned_concat, relearned_concat, hkept] at hnow
      exact (inStep_of_plain before).parted hkept hnot hnow

/-- The two learners agree at every moment of a history exactly if no report is of a second cell. -/
theorem known_past_iff (config : LineageConfig) (cells : List Cell) :
    (∀ past, past <+: cells → ∀ d,
      (learned config past).known d = (relearned config past).known d) ↔
    ∀ record ∈ log config cells,
      record.observations = 1 ∧ record.meanFitness.value.isFinite = true := by
  constructor
  · intro agree record hrecord
    have plain := plain_of_known agree record hrecord
    exact ⟨plain.single, plain.finite⟩
  · intro plain past hpast d
    refine (inStep_of_plain fun record hrecord => ?_).known d
    obtain ⟨more, rfl⟩ := hpast
    rw [log_append] at plain
    obtain ⟨hsingle, hfinite⟩ := plain record (List.mem_append_left _ hrecord)
    exact ⟨hsingle, hfinite⟩

end Memory

end Vivarium
