import Vivarium.Proofs.Population.Stages
import Vivarium.Population.History

/-!
# What every call keeps

Between two calls the live cells are bounded in number, stand in the order of
their ids, lie in bounds, and are as old as the ticks since they were made. A
tick keeps all of this because every cell that it ends with either was there
before and has been through one evaluation and one tick more, or has just been
made under a fresh id. A replay keeps it because it only ever fills an empty
population. No clause survives on its own: culling puts the cells back in order
only because the ids ascend, and a copy of its parent lies in bounds only
because the parent does.
-/

namespace Vivarium

open Vivarium.Random

/-- What holds of a live cell between two calls. -/
structure Cell.Sound (population : Population) (cell : Cell) : Prop where
  alive : cell.alive = true
  inBounds : population.config.bounds.Holds cell.descriptor
  id_lt : cell.id < population.nextId
  age_eq : cell.bornTick + cell.age = population.generation

/-- What holds of a population between two calls. -/
structure Population.Sound (population : Population) : Prop where
  valid : population.config.Valid
  bounded : population.cells.length ≤ population.config.population.maxSize
  ascending : Ascending population.cells
  each : ∀ cell ∈ population.cells, cell.Sound population
  snapshot_generation : population.snapshot.generation = population.generation

theorem Ascending.of_ids {cells : List Cell} {ids : List Nat} (h : cells.map (·.id) = ids)
    (hids : ids.Pairwise (· < ·)) : Ascending cells := by
  rw [← h, List.pairwise_map] at hids
  exact hids

theorem Ascending.ids {cells : List Cell} (h : Ascending cells) :
    (cells.map (·.id)).Pairwise (· < ·) :=
  List.pairwise_map.mpr h

namespace Population

variable {population : Population} {poll : Poll}

theorem fresh_sound {config : FieldConfig} (valid : config.Valid) (interpret : Interpreter)
    (source : Source) : (fresh config interpret source).Sound where
  valid := valid
  bounded := Nat.zero_le _
  ascending := .nil
  each := by simp [fresh]
  snapshot_generation := rfl

theorem Sound.holds (sound : population.Sound) :
    ∀ cell ∈ population.cells, population.config.bounds.Holds cell.descriptor :=
  fun cell hcell => (sound.each cell hcell).inBounds

theorem reviewed_ids (population : Population) (poll : Poll) :
    (population.reviewed poll).map (·.id) = population.cells.map (·.id) := by
  rw [reviewed, List.map_map]
  rfl

/-! ## A tick -/

namespace Account

variable {founders children : List Cell} {middle : Source} {stages : Stages}

theorem founders_made (valid : population.config.Valid)
    (account : population.Account poll founders children middle stages) :
    Founders population.config.bounds (population.generation + 1) population.seeds
      population.nextId founders :=
  (Draw.yields_foundersFrom valid.bounds _ _ _).of_run account.foundersDrawn

theorem children_made (sound : population.Sound)
    (account : population.Account poll founders children middle stages) :
    Children population.config.bounds (stages.afterDeaths.2.best.map (·.descriptor))
      (population.generation + 1)
      (stages.survivors.filter (·.meets population.config.selection .reproduces))
      (population.nextId + population.seeds) children := by
  refine (Draw.yields_childrenFrom sound.valid _ _ (fun parent hparent => ?_) _).of_run
    account.childrenDrawn
  have hsurvivor := List.mem_of_mem_filter hparent
  rw [account.survivors] at hsurvivor
  exact holds_of_mem_reviewed sound.holds (List.mem_of_mem_filter hsurvivor)

theorem founders_cells (account : population.Account poll founders children middle stages) :
    stages.founders.cells = founders.map (Cell.scored (population.scores poll)) := by
  rw [account.founders, Evaluation.cells_of]

theorem children_cells (account : population.Account poll founders children middle stages) :
    stages.children.cells = children.map (Cell.scored (population.scores poll)) := by
  rw [account.children, Evaluation.cells_of]

theorem survivors_ids_lt (sound : population.Sound)
    (account : population.Account poll founders children middle stages) :
    ∀ cell ∈ stages.survivors, cell.id < population.nextId := by
  intro cell hcell
  rw [account.survivors] at hcell
  obtain ⟨before, hbefore, rfl⟩ := mem_reviewed.mp (List.mem_of_mem_filter hcell)
  exact (sound.each before hbefore).id_lt

/-- The ids of newcomers follow on one another and on all ids given out before. -/
theorem newcomers_ids (sound : population.Sound)
    (account : population.Account poll founders children middle stages) :
    (stages.founders.cells ++ stages.children.cells).map (·.id) =
      List.range' population.nextId (founders.length + children.length) := by
  have hfounders := account.founders_made sound.valid
  have hchildren := account.children_made sound
  rw [account.founders_cells, account.children_cells, List.map_append, List.map_map,
    List.map_map]
  show founders.map (·.id) ++ children.map (·.id) = _
  rw [hfounders.ids, hchildren.ids, hfounders.length_eq, hchildren.length_eq,
    List.range'_append_1]

theorem lineup_ids (sound : population.Sound)
    (account : population.Account poll founders children middle stages) :
    stages.lineup.map (·.id) = stages.survivors.map (·.id) ++
      List.range' population.nextId (founders.length + children.length) := by
  rw [Stages.lineup, List.append_assoc, List.map_append, account.newcomers_ids sound]

theorem lineup_ascending (sound : population.Sound)
    (account : population.Account poll founders children middle stages) :
    Ascending stages.lineup := by
  refine Ascending.of_ids (account.lineup_ids sound) (List.pairwise_append.mpr ⟨?_, ?_, ?_⟩)
  · rw [account.survivors]
    have hreviewed := Ascending.of_ids (reviewed_ids population poll) sound.ascending.ids
    exact Ascending.ids (List.Pairwise.sublist List.filter_sublist hreviewed)
  · exact List.pairwise_lt_range'
  · intro a ha b hb
    obtain ⟨cell, hcell, rfl⟩ := List.mem_map.mp ha
    have hlt := account.survivors_ids_lt sound cell hcell
    have hle := (List.mem_range'_1.mp hb).1
    omega

/-- Whoever is in the line was evaluated this tick: an old cell that did not die, or a new one. -/
theorem mem_lineup (sound : population.Sound)
    (account : population.Account poll founders children middle stages) {cell : Cell}
    (h : cell ∈ stages.lineup) :
    (∃ before ∈ population.cells, cell = before.scored (population.scores poll)) ∨
      population.nextId ≤ cell.id ∧ ∃ made, Newcomer population.config.bounds
        (population.generation + 1) made ∧ cell = made.scored (population.scores poll) := by
  have hfounders := account.founders_made sound.valid
  have hchildren := account.children_made sound
  have hid : ∀ {cells : List Cell} {first count : Nat}, cells.map (·.id) = List.range' first count →
      population.nextId ≤ first → ∀ made ∈ cells, population.nextId ≤ made.id := by
    intro cells first count hids hfirst made hmade
    have hmem : made.id ∈ cells.map (·.id) := List.mem_map_of_mem hmade
    rw [hids, List.mem_range'_1] at hmem
    omega
  rw [Stages.lineup, List.mem_append, List.mem_append] at h
  rcases h with (hsurvivor | hfounder) | hchild
  · rw [account.survivors] at hsurvivor
    obtain ⟨before, hbefore, rfl⟩ := mem_reviewed.mp (List.mem_of_mem_filter hsurvivor)
    exact .inl ⟨before, hbefore, rfl⟩
  · rw [account.founders_cells] at hfounder
    obtain ⟨made, hmade, rfl⟩ := List.mem_map.mp hfounder
    exact .inr ⟨hid hfounders.ids (Nat.le_refl _) made hmade, made,
      (hfounders.each made hmade).toNewcomer, rfl⟩
  · rw [account.children_cells] at hchild
    obtain ⟨made, hmade, rfl⟩ := List.mem_map.mp hchild
    obtain ⟨parent, -, hmadeOf⟩ := hchildren.newcomer made hmade
    exact .inr ⟨hid hchildren.ids (Nat.le_add_right _ _) made hmade, made, hmadeOf.toNewcomer, rfl⟩

theorem id_lt_of_mem_lineup (sound : population.Sound)
    (account : population.Account poll founders children middle stages) {cell : Cell}
    (h : cell ∈ stages.lineup) :
    cell.id < population.nextId + stages.founders.cells.length + stages.children.cells.length := by
  have hmem : cell.id ∈ stages.lineup.map (·.id) := List.mem_map_of_mem h
  rw [account.lineup_ids sound, List.mem_append, List.mem_range'_1] at hmem
  rw [account.founders_cells, account.children_cells, List.length_map, List.length_map]
  rcases hmem with hsurvivor | hnew
  · obtain ⟨survivor, hsurvivor, heq⟩ := List.mem_map.mp hsurvivor
    have hlt := account.survivors_ids_lt sound survivor hsurvivor
    omega
  · omega

/-- A cell at the end of a tick was there before and is one evaluation and one tick on, or is new
and has been evaluated once. -/
theorem mem_cells (sound : population.Sound)
    (account : population.Account poll founders children middle stages) {cell : Cell}
    (h : cell ∈ stages.cells) :
    (∃ before ∈ population.cells, cell = (before.scored (population.scores poll)).older) ∨
      population.nextId ≤ cell.id ∧ ∃ made, Newcomer population.config.bounds
        (population.generation + 1) made ∧ cell = made.scored (population.scores poll) := by
  obtain ⟨kept, hkept, rfl⟩ := List.mem_map.mp h
  have hline := account.lineup_of_kept hkept
  rw [account.tick]
  rcases account.mem_lineup sound hline with ⟨before, hbefore, rfl⟩ | ⟨hid, made, hmade, rfl⟩
  · have hage := (sound.each before hbefore).age_eq
    rw [Cell.aged_of_lt (by rw [Cell.bornTick_scored]; omega)]
    exact .inl ⟨before, hbefore, rfl⟩
  · rw [Cell.aged_of_le (by rw [Cell.bornTick_scored, hmade.bornTick])]
    exact .inr ⟨hid, made, hmade, rfl⟩

theorem ids_aged (stages : Stages) :
    stages.cells.map (·.id) = stages.culling.kept.map (·.id) := by
  rw [Stages.cells, List.map_map]
  exact List.map_congr_left fun cell _ => Cell.id_aged stages.tick cell

theorem length_cells (account : population.Account poll founders children middle stages) :
    stages.cells.length = min stages.lineup.length population.config.population.maxSize := by
  rw [Stages.cells, List.length_map, account.culling, length_kept]

theorem after_sound (sound : population.Sound)
    (account : population.Account poll founders children middle stages) :
    (population.after stages).Sound where
  valid := sound.valid
  bounded := by
    show stages.cells.length ≤ _
    rw [account.length_cells]
    exact Nat.min_le_right _ _
  ascending := by
    show Ascending stages.cells
    refine Ascending.of_ids (ids_aged stages) (Ascending.ids ?_)
    rw [account.culling]
    exact kept_ascending (account.lineup_ascending sound) _
  each := by
    intro cell (hcell : cell ∈ stages.cells)
    have hid : cell.id < (population.after stages).nextId := by
      have hmem : cell.id ∈ stages.cells.map (·.id) := List.mem_map_of_mem hcell
      rw [ids_aged] at hmem
      obtain ⟨kept, hkept, heq⟩ := List.mem_map.mp hmem
      rw [← heq]
      exact account.id_lt_of_mem_lineup sound (account.lineup_of_kept hkept)
    have hgeneration : (population.after stages).generation = population.generation + 1 :=
      account.tick
    rcases account.mem_cells sound hcell with ⟨before, hbefore, rfl⟩ | ⟨-, made, hmade, rfl⟩
    · have hbefore := sound.each before hbefore
      have hage := hbefore.age_eq
      refine ⟨hbefore.alive, hbefore.inBounds, hid, ?_⟩
      rw [hgeneration]
      show before.bornTick + (before.age + 1) = _
      omega
    · have hborn := hmade.bornTick
      have hage := hmade.age
      refine ⟨hmade.alive, hmade.inBounds, hid, ?_⟩
      rw [hgeneration]
      show made.bornTick + made.age = _
      omega
  snapshot_generation := rfl

end Account

theorem tick_eq_ok {next : Population} {report : TickReport}
    (h : population.tick poll = .ok (report, next)) :
    ∃ stages, population.stages poll = .ok stages ∧ next = population.after stages ∧
      report = {
        snapshot := next.snapshot
        fitness := stages.records
        lineage := stages.afterDeaths.1 ++ stages.afterCulls.1
        observations := stages.ingest.observations } := by
  unfold Population.tick at h
  obtain ⟨stages, hstages, hpure⟩ := bind_eq_ok.mp h
  cases hpure
  exact ⟨stages, hstages, rfl, rfl⟩

/-- A tick that was answered has books, and both what it reports and what it leaves follow them. -/
theorem account_of_tick {next : Population} {report : TickReport}
    (h : population.tick poll = .ok (report, next)) :
    ∃ founders children middle stages,
      population.Account poll founders children middle stages ∧
        next = population.after stages ∧
        report = {
          snapshot := next.snapshot
          fitness := stages.records
          lineage := stages.afterDeaths.1 ++ stages.afterCulls.1
          observations := stages.ingest.observations } := by
  obtain ⟨stages, hstages, hnext, hreport⟩ := tick_eq_ok h
  obtain ⟨founders, children, middle, account⟩ := account_of_stages hstages
  exact ⟨founders, children, middle, stages, account, hnext, hreport⟩

theorem config_of_tick (h : population.tick poll = .ok (report, next)) :
    next.config = population.config ∧ next.interpret = population.interpret := by
  obtain ⟨stages, -, rfl, -⟩ := tick_eq_ok h
  exact ⟨rfl, rfl⟩

theorem exists_tick (sound : population.Sound) (poll : Poll) :
    ∃ report next, population.tick poll = .ok (report, next) := by
  obtain ⟨stages, hstages⟩ := exists_stages sound.valid sound.holds poll
  exact ⟨_, _, bind_eq_ok.mpr ⟨stages, hstages, rfl⟩⟩

/-! ## A replay -/

theorem length_lastOf_le (n : Nat) (items : List α) : (lastOf n items).length ≤ n := by
  rw [lastOf, List.length_drop]
  omega

theorem foundersWith_made {bounds : Bounds} (tick : Nat) {ds : List Descriptor}
    (h : ∀ d ∈ ds, bounds.Holds d) (id : Nat) :
    Founders bounds tick ds.length id (foundersWith tick ds id) := by
  induction ds generalizing id with
  | nil => exact ⟨rfl, by simp [foundersWith]⟩
  | cons d ds ih =>
      have hrest := ih (fun e he => h e (List.mem_cons_of_mem _ he)) (id + 1)
      constructor
      · rw [foundersWith, List.map_cons, hrest.ids, List.length_cons, List.range'_succ]
        rfl
      · intro cell hcell
        rcases List.mem_cons.mp hcell with rfl | hmem
        · exact founder_founder (h d List.mem_cons_self) id tick
        · exact hrest.each cell hmem

/-- A population after a replay that founded the given cells. -/
def revivedWith (population : Population) (memory : Memory) (founders : List Cell) : Population :=
  { population with
    memory
    cells := population.cells ++ founders
    nextId := population.nextId + founders.length }

/-- A replay has an answer: it touches the memory, and founds cells where there are none. -/
theorem replay_eq_ok (sound : population.Sound) (entries : List AuditEntry) :
    ∃ founders count, count ≤ population.config.population.maxSize ∧
      Founders population.config.bounds population.generation count population.nextId founders ∧
      (population.cells ≠ [] → founders = []) ∧
      population.replay entries = .ok (
        { lineages := (population.memory.restoreAll (entries.filterMap AuditEntry.lineage?)).1
          cells := founders.length },
        population.revivedWith
          (population.memory.restoreAll (entries.filterMap AuditEntry.lineage?)).2 founders) := by
  unfold replay revived
  by_cases hempty : population.cells.isEmpty = true
  · rw [if_pos hempty, mapM_eq_ok fun d _ => Bounds.clamp_eq_ok sound.valid.bounds.proper d]
    refine ⟨_, _, ?_, foundersWith_made population.generation ?_ population.nextId, ?_, rfl⟩
    · rw [List.length_map]
      exact Nat.le_trans (length_lastOf_le _ _) sound.valid.initial_le_max
    · intro d hd
      obtain ⟨e, -, rfl⟩ := List.mem_map.mp hd
      exact Bounds.contains_project sound.valid.bounds.proper e
    · intro hne
      exact absurd (List.isEmpty_iff.mp hempty) hne
  · rw [if_neg hempty]
    exact ⟨[], 0, Nat.zero_le _, ⟨rfl, by simp⟩, fun _ => rfl, rfl⟩

theorem revivedWith_sound (sound : population.Sound) {memory : Memory} {founders : List Cell}
    {count : Nat} (hcount : count ≤ population.config.population.maxSize)
    (hfounders : Founders population.config.bounds population.generation count population.nextId
      founders) (hnone : population.cells ≠ [] → founders = []) :
    (population.revivedWith memory founders).Sound := by
  have hids : ∀ founder ∈ founders, population.nextId ≤ founder.id ∧
      founder.id < population.nextId + founders.length := by
    intro founder hfounder
    have hmem : founder.id ∈ founders.map (·.id) := List.mem_map_of_mem hfounder
    rw [hfounders.ids, List.mem_range'_1, ← hfounders.length_eq] at hmem
    exact hmem
  constructor
  case valid => exact sound.valid
  case bounded =>
    show (population.cells ++ founders).length ≤ _
    by_cases hcells : population.cells = []
    · rw [hcells, List.nil_append, hfounders.length_eq]
      exact hcount
    · rw [hnone hcells, List.append_nil]
      exact sound.bounded
  case ascending =>
    refine List.pairwise_append.mpr ⟨sound.ascending, ?_, ?_⟩
    · exact Ascending.of_ids hfounders.ids List.pairwise_lt_range'
    · intro a ha b hb
      have hlt := (sound.each a ha).id_lt
      have hle := (hids b hb).1
      omega
  case each =>
    intro cell hcell
    rcases List.mem_append.mp hcell with hold | hnew
    · have hcell := sound.each cell hold
      exact ⟨hcell.alive, hcell.inBounds, Nat.lt_add_right _ hcell.id_lt, hcell.age_eq⟩
    · have hfounder := hfounders.each cell hnew
      refine ⟨hfounder.alive, hfounder.inBounds, (hids cell hnew).2, ?_⟩
      rw [hfounder.age, hfounder.bornTick]
      rfl
  case snapshot_generation => exact sound.snapshot_generation

end Population

end Vivarium
