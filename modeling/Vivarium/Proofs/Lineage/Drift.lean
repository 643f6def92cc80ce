import Vivarium.Proofs.Lineage.Replay

/-!
# How far a replay drifts

Where no record ever has to make way, the harm that a replay does can be
counted. A descriptor that was reported a number of times was seen in that many
cells, and its reports tell of one cell, of two, of three and so on; the replay
adds them up. So a learner that should know of `n` cells knows of
`n * (n + 1) / 2` afterwards, while the greatest age comes out right. The two
numbers agree only for a single report, and therefore such a history replays
faithfully exactly if no descriptor is reported twice.

Where records do make way nothing as simple holds of the end of a history: a
record that went wrong may be among those that are forgotten. What holds there
is about every moment of it.
-/

namespace Vivarium

open Number

namespace Memory

open LineageRecord

/-- How two learners know a descriptor that was reported some times, the second from a replay. -/
inductive Drift : Nat → Option LineageRecord → Option LineageRecord → Prop where
  | unknown : Drift 0 none none
  | known {times : Nat} {x y : LineageRecord} (seen : x.observations = times + 1)
      (counted : 2 * y.observations = (times + 1) * (times + 1 + 1))
      (age : y.survivalAge = x.survivalAge) : Drift (times + 1) (some x) (some y)

/-- How often a descriptor occurs in a log. -/
def reports (logged : List LineageRecord) (d : Descriptor) : Nat :=
  (logged.map (·.descriptor)).count d

/-- What a replay without evictions keeps to. -/
structure Drifted (config : LineageConfig) (logged : List LineageRecord) (a b : Memory) :
    Prop where
  left : a.config = config
  right : b.config = config
  descriptors : a.records.map (·.descriptor) = b.records.map (·.descriptor)
  distinct : (a.records.map (·.descriptor)).Nodup
  reported : ∀ d ∈ a.records.map (·.descriptor), d ∈ logged.map (·.descriptor)
  each : ∀ d, Drift (reports logged d) (a.find? d) (b.find? d)

variable {config : LineageConfig} {logged : List LineageRecord} {a b : Memory}
  {kept : LineageRecord}

theorem Drift.cases_of_find? {times : Nat} {old old' : Option LineageRecord}
    (h : Drift times old old') :
    (times = 0 ∧ old = none ∧ old' = none) ∨
      ∃ x y, old = some x ∧ old' = some y ∧ x.observations = times ∧
        2 * y.observations = times * (times + 1) ∧ y.survivalAge = x.survivalAge := by
  cases h with
  | unknown => exact .inl ⟨rfl, rfl, rfl⟩
  | known seen counted age => exact .inr ⟨_, _, rfl, rfl, seen, counted, age⟩

theorem reports_concat (logged : List LineageRecord) (kept : LineageRecord) (d : Descriptor) :
    reports (logged ++ [kept]) d = reports logged d + if kept.descriptor = d then 1 else 0 := by
  rw [reports, List.map_append, List.count_append, List.map_singleton, List.count_singleton]
  simp only [beq_iff_eq]
  rfl

theorem find?_extended {memory : Memory} {d : Descriptor} {x : LineageRecord}
    (hnone : memory.find? d = none) (hx : x.descriptor = d) (other : Descriptor) :
    (memory.counted.holding (memory.records ++ [x])).find? other =
      if d = other then some x else memory.find? other := by
  split
  · next heq =>
      subst heq
      exact find?_append_of_none (find?_eq_none_iff.mp hnone) hx
  · next hne => exact find?_append_of_ne (hx ▸ hne)

theorem Drifted.unknown (h : Drifted config logged a b) {d : Descriptor} (hnone : a.find? d = none) :
    reports logged d = 0 ∧ b.find? d = none := by
  rcases (h.each d).cases_of_find? with ⟨hzero, -, hnone'⟩ | ⟨old, _, hold, -⟩
  · exact ⟨hzero, hnone'⟩
  · rw [hnone] at hold
    cases hold

/-- A newcomer finds room as long as there is room for every descriptor that is reported. -/
theorem Drifted.room (h : Drifted config logged a b) (hnew : a.find? kept.descriptor = none)
    (hroom : ((logged ++ [kept]).map (·.descriptor)).toFinset.card ≤ config.capacity) :
    a.records.length < a.config.capacity := by
  have hnone := find?_eq_none_iff.mp hnew
  have hfresh : kept.descriptor ∉ a.records.map (·.descriptor) := by
    intro hmem
    obtain ⟨record, hrecord, hd⟩ := List.mem_map.mp hmem
    exact hnone record hrecord hd
  have hnodup := List.nodup_cons.mpr ⟨hfresh, h.distinct⟩
  have hsub : (kept.descriptor :: a.records.map (·.descriptor)).toFinset ⊆
      ((logged ++ [kept]).map (·.descriptor)).toFinset := by
    intro d hd
    rw [List.mem_toFinset] at hd ⊢
    rw [List.map_append, List.mem_append]
    rcases List.mem_cons.mp hd with rfl | hold
    · exact .inr List.mem_cons_self
    · exact .inl (h.reported d hold)
  have hcard := Finset.card_le_card hsub
  rw [List.toFinset_card_of_nodup hnodup, List.length_cons, List.length_map] at hcard
  rw [h.left]
  omega

theorem Drifted.observe_none (h : Drifted config logged a b) {cell : Cell}
    (hnone : (a.observe cell).1 = none) : Drifted config logged (a.observe cell).2 b := by
  rcases observe_of_none hnone with hsame | hcounted
  · rw [hsame]
    exact h
  · rw [hcounted]
    exact ⟨h.left, h.right, h.descriptors, h.distinct, h.reported, h.each⟩

/-- Two records of the newcomer that was reported, side by side at the end. -/
theorem Drifted.extended (h : Drifted config logged a b) {x y : LineageRecord}
    (hx : x.descriptor = kept.descriptor) (hy : y.descriptor = kept.descriptor)
    (hnone : a.find? kept.descriptor = none) (seen : x.observations = 1)
    (counted : y.observations = 1) (age : y.survivalAge = x.survivalAge) :
    Drifted config (logged ++ [kept]) (a.counted.holding (a.records ++ [x]))
      (b.counted.holding (b.records ++ [y])) := by
  obtain ⟨hzero, hnone'⟩ := h.unknown hnone
  have hfresh := find?_eq_none_iff.mp hnone
  constructor
  case left => exact h.left
  case right => exact h.right
  case descriptors =>
    show List.map _ (_ ++ _) = List.map _ (_ ++ _)
    rw [List.map_append, List.map_append, h.descriptors, List.map_singleton, List.map_singleton,
      hx, hy]
  case distinct =>
    show (List.map _ (_ ++ _)).Nodup
    rw [List.map_append, List.map_singleton, List.nodup_append]
    refine ⟨h.distinct, List.nodup_singleton _, ?_⟩
    intro d hold d' hnew
    obtain ⟨record, hrecord, rfl⟩ := List.mem_map.mp hold
    rw [List.mem_singleton.mp hnew, hx]
    exact hfresh record hrecord
  case reported =>
    intro d hmem
    rw [List.map_append, List.mem_append]
    rcases List.mem_append.mp (List.map_append ▸ hmem) with hold | hnew
    · exact .inl (h.reported d hold)
    · rw [List.map_singleton, hx] at hnew
      exact .inr hnew
  case each =>
    intro d
    -- Only what is found under the descriptor of the newcomer changes.
    rw [reports_concat, find?_extended hnone hx, find?_extended hnone' hy]
    split
    · next heq =>
        subst heq
        rw [hzero]
        exact .known seen (by rw [counted]) age
    · exact h.each d

theorem Drifted.newcomer (h : Drifted config logged a b) {cell : Cell}
    (hnone : a.find? cell.descriptor = none)
    (hkept : kept = (ofCell cell).stamped a.counted.sequence)
    (hfinite : kept.meanFitness.value.isFinite = true)
    (hroom : ((logged ++ [kept]).map (·.descriptor)).toFinset.card ≤ config.capacity) :
    Drifted config (logged ++ [kept]) (a.insert (ofCell cell)).2 (b.restore kept).2 := by
  have hd : kept.descriptor = cell.descriptor := by
    rw [hkept]
    rfl
  have hnew : a.find? (ofCell cell).descriptor = none := hnone
  rw [← hd] at hnone
  have hnone' := (h.unknown hnone).2
  have plain : kept.Plain := ⟨by rw [hkept]; rfl, hfinite⟩
  have hlength := congrArg List.length h.descriptors
  rw [List.length_map, List.length_map] at hlength
  have hspace := h.room hnone hroom
  rw [insert_of_none hnew, restore_of_plain plain, insert_of_none hnone',
    @takeIn_of_room a.counted _ hspace, @takeIn_of_room b.counted]
  · exact h.extended hd.symm rfl hnone rfl plain.single (by rw [hkept]; rfl)
  · show b.records.length < b.config.capacity
    rw [← hlength, h.right, ← h.left]
    exact hspace

theorem Drifted.known (h : Drifted config logged a b) {d : Descriptor} {old : LineageRecord}
    (hfind : a.find? d = some old) : ∃ old', b.find? d = some old' ∧
      old.observations = reports logged d ∧
      2 * old'.observations = reports logged d * (reports logged d + 1) ∧
      old'.survivalAge = old.survivalAge := by
  rcases (h.each d).cases_of_find? with ⟨-, hnone, -⟩ | ⟨x, y, hx, hy, hrest⟩
  · rw [hfind] at hnone
    cases hnone
  · rw [hfind] at hx
    cases hx
    exact ⟨y, hy, hrest⟩

/-- One more report of a descriptor that both sides know. -/
theorem Drifted.revised (h : Drifted config logged a b) {a' b' : Memory} {x : LineageRecord}
    (ha : a.Revised a' kept) (hb : b.Revised b' x) (hx : x.descriptor = kept.descriptor)
    (seen : kept.observations = reports logged kept.descriptor + 1)
    (counted : 2 * x.observations =
      (reports logged kept.descriptor + 1) * (reports logged kept.descriptor + 1 + 1))
    (age : x.survivalAge = kept.survivalAge) : Drifted config (logged ++ [kept]) a' b' := by
  constructor
  case left =>
    rw [ha.config]
    exact h.left
  case right =>
    rw [hb.config]
    exact h.right
  case descriptors =>
    rw [ha.descriptors, hb.descriptors]
    exact h.descriptors
  case distinct =>
    rw [ha.descriptors]
    exact h.distinct
  case reported =>
    rw [ha.descriptors]
    intro d hmem
    rw [List.map_append]
    exact List.mem_append_left _ (h.reported d hmem)
  case each =>
    intro d
    rw [reports_concat]
    split
    · next heq =>
        subst heq
        have hfound := hb.found
        rw [hx] at hfound
        rw [ha.found, hfound]
        exact .known seen counted age
    · next hne =>
        rw [ha.others d (Ne.symm hne), hb.others d (hx ▸ Ne.symm hne)]
        exact h.each d

theorem Drifted.merged (h : Drifted config logged a b) {cell : Cell} {old : LineageRecord}
    (hfind : a.find? cell.descriptor = some old)
    (hkept : kept = old.merge ((ofCell cell).stamped a.counted.sequence))
    (hfinite : kept.meanFitness.value.isFinite = true) :
    Drifted config (logged ++ [kept]) (a.insert (ofCell cell)).2 (b.restore kept).2 := by
  have hold := descriptor_of_find? hfind
  have hd : kept.descriptor = cell.descriptor := by
    rw [hkept]
    exact hold
  have hseen : kept.observations = old.observations + 1 := by
    rw [hkept]
    rfl
  have hage : kept.survivalAge = max old.survivalAge cell.age := by
    rw [hkept]
    rfl
  have hrevised : a.Revised (a.insert (ofCell cell)).2 kept := by
    rw [hkept]
    exact insert_revised hfind
  rw [← hd] at hfind
  obtain ⟨old', hfind', hseen', hcounted', hage'⟩ := h.known hfind
  obtain ⟨merged, hrevised', hmerged, hcounted, hgreatest⟩ := restore_revised hfinite hfind'
  refine h.revised hrevised hrevised' hmerged (by rw [hseen, hseen']) ?_ ?_
  · have hmax : max kept.observations 1 = reports logged kept.descriptor + 1 := by omega
    rw [hcounted, hmax, Nat.mul_add, hcounted']
    ring
  · rw [hgreatest, hage, hage']
    omega

theorem Drifted.observe_some (h : Drifted config logged a b) {cell : Cell}
    (hkept : (a.observe cell).1 = some kept) (hfinite : kept.meanFitness.value.isFinite = true)
    (hroom : ((logged ++ [kept]).map (·.descriptor)).toFinset.card ≤ config.capacity) :
    Drifted config (logged ++ [kept]) (a.observe cell).2 (b.restore kept).2 := by
  obtain ⟨hinsert, ⟨hnone, hnew⟩ | ⟨old, hfind, hmerge⟩⟩ := observe_of_some hkept
  · rw [hinsert]
    exact h.newcomer hnone hnew hfinite hroom
  · rw [hinsert]
    exact h.merged hfind hmerge hfinite

/-! ## A whole history -/

/-- Whether a history never fills the memory, and all its reports are restored. -/
structure Roomy (config : LineageConfig) (cells : List Cell) : Prop where
  room : ((log config cells).map (·.descriptor)).toFinset.card ≤ config.capacity
  finite : ∀ record ∈ log config cells, record.meanFitness.value.isFinite = true

variable {cells : List Cell}

theorem drifted_of_roomy (roomy : Roomy config cells) :
    Drifted config (log config cells) (learned config cells) (relearned config cells) := by
  induction cells using List.reverseRecOn with
  | nil => exact ⟨rfl, rfl, rfl, .nil, fun _ hmem => (nomatch hmem), fun _ => .unknown⟩
  | append_singleton cells cell ih =>
    obtain ⟨hroom, hfinite⟩ := roomy
    rw [log_concat] at hroom hfinite
    have before : Roomy config cells := by
      refine ⟨Nat.le_trans (Finset.card_le_card ?_) hroom, fun record hrecord =>
        hfinite record (List.mem_append_left _ hrecord)⟩
      intro d hd
      rw [List.map_append, List.mem_toFinset, List.mem_append]
      exact .inl (List.mem_toFinset.mp hd)
    have drifted := ih before
    rw [log_concat, learned_concat, relearned_concat]
    cases hkept : ((learned config cells).observe cell).1 with
    | none =>
      rw [Option.toList_none, List.append_nil]
      exact drifted.observe_none hkept
    | some kept =>
      rw [hkept, Option.toList_some] at hroom hfinite
      have hreport := hfinite kept (List.mem_append_right _ List.mem_cons_self)
      exact drifted.observe_some hkept hreport hroom

/-- What a learner knows of a descriptor that it saw in some number of cells. -/
def tally (cells age : Nat) : Option (Nat × Nat) :=
  if cells = 0 then none else some (cells, age)

theorem tally_inj {m n age : Nat} : tally m age = tally n age ↔ m = n := by
  constructor
  · intro heq
    rw [tally, tally] at heq
    split at heq
    · split at heq
      · omega
      · cases heq
    · split at heq
      · cases heq
      · exact congrArg Prod.fst (Option.some.inj heq)
  · intro heq
    rw [heq]

theorem half_product_eq_self {n : Nat} : n = n * (n + 1) / 2 ↔ n ≤ 1 := by
  constructor
  · intro heq
    by_contra hlarge
    have hproduct : n * 3 ≤ n * (n + 1) := Nat.mul_le_mul_left n (by omega)
    omega
  · intro hsmall
    interval_cases n
    · rfl
    · rfl

/-- How far two learners are apart after some reports, the second of them a replay of the first. -/
structure Counts (logged : List LineageRecord) (a b : Memory) : Prop where
  each : ∀ d, ∃ age, a.known d = tally (reports logged d) age ∧
    b.known d = tally (reports logged d * (reports logged d + 1) / 2) age
  agree : (∀ d, a.known d = b.known d) ↔ (logged.map (·.descriptor)).Nodup

theorem Drift.known_eq {times : Nat} {d : Descriptor}
    (h : Drift times (a.find? d) (b.find? d)) :
    ∃ age, a.known d = tally times age ∧ b.known d = tally (times * (times + 1) / 2) age := by
  rw [Memory.known, Memory.known]
  generalize a.find? d = old at h ⊢
  generalize b.find? d = old' at h ⊢
  cases h with
  | unknown => exact ⟨0, rfl, rfl⟩
  | @known times x y seen counted age =>
    have hhalf : y.observations = (times + 1) * (times + 1 + 1) / 2 := by omega
    have hpositive : y.observations ≠ 0 := by
      intro hzero
      rw [hzero] at counted
      exact absurd counted.symm (Nat.mul_ne_zero (Nat.succ_ne_zero _) (Nat.succ_ne_zero _))
    refine ⟨x.survivalAge, ?_, ?_⟩
    · rw [tally, if_neg (Nat.succ_ne_zero times), Option.map_some, seen]
    · rw [tally, ← hhalf, if_neg hpositive, Option.map_some, age]

theorem Drifted.counts (h : Drifted config logged a b) : Counts logged a b := by
  have each := fun d => (h.each d).known_eq
  refine ⟨each, ?_⟩
  rw [List.nodup_iff_count_le_one]
  refine forall_congr' fun d => ?_
  obtain ⟨age, hknown, hknown'⟩ := each d
  rw [hknown, hknown', tally_inj, half_product_eq_self, reports]

/-- The two learners agree all along exactly if no report is of a second cell. Where there is room
for everything that is reported, it is known how far they are apart in the end. -/
theorem replay_faithful_iff (config : LineageConfig) (cells : List Cell) :
    ((∀ past, past <+: cells → ∀ d,
        (learned config past).known d = (relearned config past).known d) ↔
      ∀ record ∈ log config cells,
        record.observations = 1 ∧ record.meanFitness.value.isFinite = true) ∧
    (Roomy config cells →
      Counts (log config cells) (learned config cells) (relearned config cells)) :=
  ⟨known_past_iff config cells, fun roomy => (drifted_of_roomy roomy).counts⟩

/-- A cell of six ticks that scored the same in each of them. -/
def veteran (id : Nat) (fitness : Float32) : Cell :=
  Nat.iterate (fun cell => (cell.evaluated fitness).older) 6 (.founder id (.recurrent 2 64) 0)

/-- Two cells of one descriptor are three cells after a replay. -/
theorem replay_counts_again :
    1 ≤ LineageConfig.capacity {} ∧ inUnit 0.9 = true ∧
      (learned {} [veteran 0 0.9, veteran 1 0.9]).known (.recurrent 2 64) = some (2, 6) ∧
      (relearned {} [veteran 0 0.9, veteran 1 0.9]).known (.recurrent 2 64) = some (3, 6) :=
  ⟨by decide, by decide +kernel, by decide +kernel, by decide +kernel⟩

/-- Three cells of one descriptor. -/
def veterans : List Cell :=
  [veteran 0 0.9, veteran 1 0.9, veteran 2 0.9]

theorem replay_faithful_iff_veterans :
    Roomy {} veterans ∧ ∃ age,
      (learned {} veterans).known (.recurrent 2 64) = tally 3 age ∧
        (relearned {} veterans).known (.recurrent 2 64) = tally 6 age := by
  have roomy : Roomy {} veterans := ⟨by decide +kernel, by decide +kernel⟩
  have counts := (replay_faithful_iff {} veterans).2 roomy
  have hthree : reports (log {} veterans) (.recurrent 2 64) = 3 := by decide +kernel
  have hknown := counts.each (.recurrent 2 64)
  rw [hthree] at hknown
  exact ⟨roomy, hknown⟩

end Memory

end Vivarium
