import Vivarium.Proofs.Lineage.Content
import Vivarium.Proofs.Population.History

/-!
# What a replay does, and what it leaves alone

A replay reads its entries twice, and each reading takes what concerns it. The
first puts the lineages back into the memory, where each is an offer like any
other and may be turned away. The second is of interest only where no cell
lives: it founds cells after the last evaluations that were no faults. Whatever
else a population has is as it was, the source of randomness included, so a
replay in the middle of a run disturbs nothing that goes on around it.

The most recent evaluations can be found from the end of the entries, by going
backwards until there are enough of them and turning around what was found. That
is the end of all of them in order.
-/

namespace Vivarium

/-- Whether an entry tells of something that a replay brings back. -/
def AuditEntry.revives : AuditEntry → Bool
  | .fitness _ => true
  | .lineage _ => true
  | _ => false

theorem lastOf_suffix (n : Nat) (items : List α) :
    ∃ earlier, items = earlier ++ lastOf n items :=
  ⟨items.take (items.length - n), (List.take_append_drop _ _).symm⟩

theorem length_lastOf (n : Nat) (items : List α) :
    (lastOf n items).length = min n items.length := by
  rw [lastOf, List.length_drop]
  omega

/-- The last items of some are the first ones that come when going backwards. -/
theorem lastOf_eq_reverse (n : Nat) (items : List α) :
    lastOf n items = (items.reverse.take n).reverse := by
  rw [List.take_reverse, List.reverse_reverse, lastOf]

/-! ## Records of the past, one after another -/

namespace Memory

variable {memory : Memory}

/-- How records of the past go back into a memory one after another, and how many are kept. -/
inductive Restored : Memory → List LineageRecord → Nat → Memory → Prop where
  | nil (memory : Memory) : Restored memory [] 0 memory
  | kept {memory middle last : Memory} {record kept : LineageRecord}
      {rest : List LineageRecord} {count : Nat}
      (outcome : memory.Outcome (.past record) (some kept, middle))
      (stored : middle.find? record.descriptor = some kept)
      (others : Restored middle rest count last) :
      Restored memory (record :: rest) (count + 1) last
  | turnedAway {memory middle last : Memory} {record : LineageRecord}
      {rest : List LineageRecord} {count : Nat}
      (outcome : memory.Outcome (.past record) (none, middle))
      (same : middle.records = memory.records)
      (others : Restored middle rest count last) :
      Restored memory (record :: rest) count last

theorem Outcome.records_eq_of_none {offering : Offering} {next : Memory}
    (h : memory.Outcome offering (none, next)) : next.records = memory.records := by
  cases h with
  | refused => rfl
  | beaten => rfl

theorem restored_restoreAll (pos : 0 < memory.config.capacity) (records : List LineageRecord) :
    memory.Restored records (memory.restoreAll records).1 (memory.restoreAll records).2 := by
  induction records generalizing memory with
  | nil => exact .nil memory
  | cons record rest ih =>
      have houtcome := offer_outcome pos (.past record)
      have hpos : 0 < (memory.restore record).2.config.capacity := houtcome.config_eq ▸ pos
      have hrest := ih hpos
      rw [restoreAll]
      cases hanswer : memory.restore record with
      | mk answer middle =>
          have hoffer : memory.offer (.past record) = (answer, middle) := hanswer
          rw [hoffer] at houtcome
          rw [hanswer] at hrest
          cases answer with
          | none =>
              simp only [Option.isSome_none, Bool.false_eq_true, if_false, Nat.zero_add]
              exact .turnedAway houtcome houtcome.records_eq_of_none hrest
          | some kept =>
              have hkept : (memory.offer (.past record)).1 = some kept := by rw [hoffer]
              have hstored : middle.find? record.descriptor = some kept := by
                have hfound := find?_offer hkept
                rwa [hoffer] at hfound
              simp only [Option.isSome_some, if_true, Nat.add_comm 1]
              exact .kept houtcome hstored hrest

theorem observeAll_eq_offerAll (memory : Memory) (cells : List Cell) :
    (memory.observeAll cells).2 = memory.offerAll (cells.map .leaving) := by
  induction cells generalizing memory with
  | nil => rfl
  | cons cell rest ih => exact ih (memory.observe cell).2

theorem restoreAll_eq_offerAll (memory : Memory) (records : List LineageRecord) :
    (memory.restoreAll records).2 = memory.offerAll (records.map .past) := by
  induction records generalizing memory with
  | nil => rfl
  | cons record rest ih => exact ih (memory.restore record).2

theorem offerAll_append (memory : Memory) (offerings more : List Offering) :
    memory.offerAll (offerings ++ more) = (memory.offerAll offerings).offerAll more :=
  List.foldl_append

end Memory

namespace Population

variable {population : Population}

/-! ## The memory of a population in a run -/

/-- Either kind of turn only ever offers something to the memory. -/
theorem Turned.exists_offerings {turn : Turn} (turned : population.Turned turn) :
    ∃ offerings, turn.after.memory = population.memory.offerAll offerings := by
  have hmemory := turned.memory
  rw [Turn.remembered, turned.before] at hmemory
  cases hcall : turn.call with
  | tick poll =>
      simp only [hcall, Memory.observeAll_eq_offerAll] at hmemory
      exact ⟨_, hmemory⟩
  | replay entries =>
      simp only [hcall, Memory.restoreAll_eq_offerAll] at hmemory
      exact ⟨_, hmemory⟩

/-- Whatever a run does, its memory is one that has been made some offers and nothing else. -/
theorem memory_of_run {config : FieldConfig} {interpret : Interpreter} {source : Random.Source}
    {calls : List Call} (accepted : config.check = .ok ())
    (reached : (fresh config interpret source).run calls = .ok population) :
    ∃ offerings, population.memory =
      ({ config := config.lineage } : Memory).offerAll offerings := by
  have valid := FieldConfig.valid_of_check accepted
  obtain ⟨turns, found, -, hrun, -, -, offerings, hoffered⟩ :=
    history_induction (fresh_sound valid interpret source)
      (motive := fun _ population => ∃ offerings, population.memory =
        ({ config := config.lineage } : Memory).offerAll offerings)
      ⟨[], rfl⟩
      (fun _ _ _ _ past _ turned => by
        obtain ⟨offerings, hbefore⟩ := past
        obtain ⟨more, hafter⟩ := turned.exists_offerings
        rw [hbefore, ← Memory.offerAll_append] at hafter
        exact ⟨_, hafter⟩) calls
  have hsame : found = population := Except.ok.inj (hrun.symm.trans reached)
  rw [← hsame]
  exact ⟨offerings, hoffered⟩

/-! ## The cells -/

theorem descriptors_foundersWith (tick : Nat) (ds : List Descriptor) (id : Nat) :
    (foundersWith tick ds id).map (·.descriptor) = ds := by
  induction ds generalizing id with
  | nil => rfl
  | cons d ds ih =>
      rw [foundersWith, List.map_cons, ih]
      rfl

theorem eq_founder_of_mem_foundersWith {tick : Nat} {ds : List Descriptor} {id : Nat} {cell : Cell}
    (h : cell ∈ foundersWith tick ds id) : cell = Cell.founder cell.id cell.descriptor tick := by
  induction ds generalizing id with
  | nil => cases h
  | cons d ds ih =>
      rcases List.mem_cons.mp h with rfl | hrest
      · rfl
      · exact ih hrest

/-- What a replay does to a population without cells, where `sound` are the descriptors of all the
evaluations that were no faults and `recent` those that it founds cells with. -/
structure Refounds (population : Population) (sound recent : List Descriptor) (count : Nat)
    (next : Population) : Prop where
  suffix : ∃ earlier, sound = earlier ++ recent
  length : recent.length = min population.config.population.initialSize sound.length
  backwards : recent = (sound.reverse.take population.config.population.initialSize).reverse
  descriptors : recent.map population.config.bounds.clamp =
    next.cells.map fun cell => .ok cell.descriptor
  ids : next.cells.map (·.id) = List.range' population.nextId recent.length
  founders : ∀ cell ∈ next.cells, cell = .founder cell.id cell.descriptor population.generation
  nextId : next.nextId = population.nextId + recent.length
  counted : count = recent.length
  bounded : count ≤ population.config.population.maxSize

/-- What a replay of some entries answers, changes, and leaves alone. -/
structure Revives (population : Population) (entries : List AuditEntry) (replayed : Replayed)
    (next : Population) : Prop where
  config : next.config = population.config
  interpret : next.interpret = population.interpret
  source : next.source = population.source
  context : next.context = population.context
  generation : next.generation = population.generation
  extinctions : next.extinctions = population.extinctions
  capacityEvents : next.capacityEvents = population.capacityEvents
  snapshot : next.snapshot = population.snapshot
  memory : population.memory.Restored (entries.filterMap AuditEntry.lineage?) replayed.lineages
    next.memory
  live : population.cells ≠ [] →
    next.cells = population.cells ∧ next.nextId = population.nextId ∧ replayed.cells = 0
  empty : population.cells = [] → ∃ recent, population.Refounds
    (entries.filterMap AuditEntry.soundDescriptor?) recent replayed.cells next
  silent : population.replay (entries.filter AuditEntry.revives) = population.replay entries

theorem replay_revivable (population : Population) (entries : List AuditEntry) :
    population.replay (entries.filter AuditEntry.revives) = population.replay entries := by
  have hlineages : (entries.filter AuditEntry.revives).filterMap AuditEntry.lineage? =
      entries.filterMap AuditEntry.lineage? := by
    rw [List.filterMap_filter]
    exact List.filterMap_congr fun entry _ => by cases entry <;> rfl
  have hsound : (entries.filter AuditEntry.revives).filterMap AuditEntry.soundDescriptor? =
      entries.filterMap AuditEntry.soundDescriptor? := by
    rw [List.filterMap_filter]
    exact List.filterMap_congr fun entry _ => by cases entry <;> rfl
  rw [replay, replay, revived, revived, hlineages, hsound]

theorem revived_of_live (h : population.cells ≠ []) (entries : List AuditEntry) :
    population.revived entries = .ok [] := by
  rw [revived, if_neg (mt List.isEmpty_iff.mp h)]

theorem revived_of_empty (valid : population.config.Valid) (h : population.cells = [])
    (entries : List AuditEntry) :
    population.revived entries = .ok
      ((lastOf population.config.population.initialSize
        (entries.filterMap AuditEntry.soundDescriptor?)).map population.config.bounds.project) := by
  rw [revived, if_pos (List.isEmpty_iff.mpr h)]
  exact mapM_eq_ok fun d _ => Bounds.clamp_eq_ok valid.bounds.proper d

theorem refounds (valid : population.config.Valid) (empty : population.cells = [])
    (memory : Memory) (sound : List Descriptor) {recent : List Descriptor}
    {founders : List Cell}
    (hrecent : recent = lastOf population.config.population.initialSize sound)
    (hfounders : founders = foundersWith population.generation
      (recent.map population.config.bounds.project) population.nextId) :
    population.Refounds sound recent founders.length
      (population.revivedWith memory founders) := by
  have hcells : (population.revivedWith memory founders).cells = founders := by
    rw [revivedWith, empty, List.nil_append]
  have hbounds : ∀ d ∈ recent.map population.config.bounds.project,
      population.config.bounds.Holds d := by
    intro d hd
    obtain ⟨e, -, rfl⟩ := List.mem_map.mp hd
    exact Bounds.contains_project valid.bounds.proper e
  have hmade := foundersWith_made population.generation hbounds population.nextId
  have hcount : founders.length = recent.length := by
    rw [hfounders, hmade.length_eq, List.length_map]
  have hlength := length_lastOf population.config.population.initialSize sound
  rw [← hrecent] at hlength
  have hdescriptors : founders.map (·.descriptor) =
      recent.map population.config.bounds.project := by
    rw [hfounders, descriptors_foundersWith]
  constructor
  case suffix =>
    rw [hrecent]
    exact lastOf_suffix _ _
  case length => exact hlength
  case backwards =>
    rw [hrecent]
    exact lastOf_eq_reverse _ _
  case descriptors =>
    rw [hcells, List.map_congr_left fun d _ => Bounds.clamp_eq_ok valid.bounds.proper d]
    have hanswers := congrArg (List.map (Except.ok (ε := Fault))) hdescriptors
    rw [List.map_map, List.map_map] at hanswers
    exact hanswers.symm
  case ids => rw [hcells, hfounders, hmade.ids, List.length_map]
  case founders =>
    intro cell hcell
    rw [hcells, hfounders] at hcell
    exact eq_founder_of_mem_foundersWith hcell
  case nextId => rw [revivedWith, hcount]
  case counted => exact hcount
  case bounded =>
    have hmax := valid.initial_le_max
    omega

theorem replay_revives (config : FieldConfig) (interpret : Interpreter) (source : Random.Source)
    (accepted : config.check = .ok ()) (calls : List Call) (population : Population)
    (reached : (fresh config interpret source).run calls = .ok population)
    (entries : List AuditEntry) :
    ∃ replayed next, population.replay entries = .ok (replayed, next) ∧
      population.Revives entries replayed next := by
  have sound := sound_of_run accepted reached
  obtain ⟨offerings, hmemory⟩ := memory_of_run accepted reached
  have hroom : 0 < population.memory.config.capacity := by
    have hpos := (FieldConfig.valid_of_check accepted).capacity_positive
    rw [hmemory, (Memory.held_offerAll config.lineage hpos offerings).1]
    exact hpos
  have hrestored := Memory.restored_restoreAll hroom (entries.filterMap AuditEntry.lineage?)
  have hsilent := replay_revivable population entries
  by_cases hcells : population.cells = []
  · have hreplay := revived_of_empty sound.valid hcells entries
    have hrefounds := refounds sound.valid hcells
      (population.memory.restoreAll (entries.filterMap AuditEntry.lineage?)).2
      (entries.filterMap AuditEntry.soundDescriptor?) rfl rfl
    refine ⟨_, _, bind_eq_ok.mpr ⟨_, hreplay, rfl⟩, ?_⟩
    exact ⟨rfl, rfl, rfl, rfl, rfl, rfl, rfl, rfl, hrestored, fun hlive => absurd hcells hlive,
      fun _ => ⟨_, hrefounds⟩, hsilent⟩
  · have hreplay := revived_of_live hcells entries
    refine ⟨_, _, bind_eq_ok.mpr ⟨_, hreplay, rfl⟩, ?_⟩
    refine ⟨rfl, rfl, rfl, rfl, rfl, rfl, rfl, rfl, hrestored, fun _ => ⟨?_, rfl, rfl⟩,
      fun hempty => absurd hempty hcells, hsilent⟩
    exact List.append_nil _

/-- A field with room for two cells at first, and for three at most. -/
def cramped : FieldConfig :=
  { population := { initialSize := 2, maxSize := 3 } }

/-- The record of an evaluation of a recurrent cell. -/
def relic (layers : UInt32) (fault : Bool) : AuditEntry :=
  .fitness ⟨3, 17, .recurrent layers 64, ⟨0.9, 0.4, 0.25, 0.25, fault⟩⟩

/-- Entries of every kind that a replay minds, and one that it does not. -/
def relics : List AuditEntry :=
  [relic 1 false, relic 2 false, .lineage ⟨.recurrent 2 64, 6, 0.9, 2, 4⟩, relic 99 false,
    .lineage ⟨.recurrent 3 64, 6, .of (0 / 0), 1, 5⟩, relic 4 true,
    .observation ⟨.epoch, "user", "why", 0⟩]

/-- A population that was founded by a replay has died out, and is founded by another one. -/
theorem replay_revives_died_out :
    ∃ population : Population, cramped.check = .ok () ∧
      (fresh cramped (fun _ _ => ⟨-1, 0, 1⟩) (.seeded 7)).run
        [.replay [relic 2 false], .tick (.ok [])] = .ok population ∧
      population.cells.map (·.id) = [] ∧
      ∃ replayed next, population.replay relics = .ok (replayed, next) ∧
        replayed = ⟨1, 2⟩ ∧ next.cells.map (fun cell => (cell.id, cell.bornTick)) =
          [(1, 1), (2, 1)] ∧
        population.Revives relics replayed next := by
  have accepted : cramped.check = .ok () := by rfl
  obtain ⟨population, traced⟩ := exists_traced (fresh_sound (FieldConfig.valid_of_check accepted)
    (fun _ _ => ⟨-1, 0, 1⟩) (.seeded 7)) rfl [.replay [relic 2 false], .tick (.ok [])]
  obtain ⟨replayed, next, hreplay, hrevives⟩ :=
    replay_revives cramped _ _ accepted _ _ traced.answer relics
  have hseen : ((fresh cramped (fun _ _ => ⟨-1, 0, 1⟩) (.seeded 7)).run
      [.replay [relic 2 false], .tick (.ok [])]).toOption.bind (fun population =>
        (population.replay relics).toOption.map fun answer =>
          (population.cells.map (·.id), answer.1,
            answer.2.cells.map fun cell => (cell.id, cell.bornTick))) =
      some ([], ⟨1, 2⟩, [(1, 1), (2, 1)]) := by
    decide +kernel
  rw [traced.answer] at hseen
  change ((population.replay relics).toOption.map _) = _ at hseen
  rw [hreplay] at hseen
  have hparts := Option.some.inj hseen
  simp only [Prod.mk.injEq] at hparts
  exact ⟨population, accepted, traced.answer, hparts.1, replayed, next, hreplay, hparts.2.1,
    hparts.2.2, hrevives⟩

end Population

end Vivarium
