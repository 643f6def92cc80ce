import Vivarium.Proofs.Population.Conservation

/-!
# The law of reproduction

Every cell whose fresh fitness lies above the birth threshold has one child,
and the children come in the order of their parents. What a child is like
follows from three things: its parent, the words of the source, and the one
pattern that the memory recalls. The memory is asked once, after the deaths of
the tick and before its culls, so all children of a tick that repeat a pattern
repeat the same one, and none does where nothing is remembered.
-/

namespace Vivarium

namespace Population

variable {population : Population} {poll : Poll}

/-- The memory of a tick that has seen its deaths and no cull yet. -/
def mourning (population : Population) (poll : Poll) : Memory :=
  (population.memory.observeAll ((population.cells.filter (population.doomed poll)).map fun cell =>
    (cell.scored (population.scores poll)).dead)).2

/-- The pattern that the children of a tick may repeat. -/
def pattern? (population : Population) (poll : Poll) : Option Descriptor :=
  (population.mourning poll).best.map (·.descriptor)

/-- How a child relates to its parent, a cell that the tick started with. -/
structure BornOf (population : Population) (poll : Poll) (parent child : Cell) : Prop where
  parent_eq : child.parent = some parent.id
  lineageDepth : child.lineageDepth = parent.lineageDepth + 1
  bornTick : child.bornTick = population.generation + 1
  age : child.age = 0
  inBounds : population.config.bounds.contains child.descriptor = .ok true
  descends : parent.descriptor.Descends population.config.bounds (population.pattern? poll)
    child.descriptor

/-- What a tick makes of the cells that are fit to reproduce. -/
structure Reproduced (population : Population) (poll : Poll) (report : TickReport)
    (children : List Cell) : Prop where
  parents : (population.cells.filter (population.fertile poll)).Pairwise fun a b => a.id < b.id
  ids : children.map (·.id) = List.range' (population.nextId + population.seeds) children.length
  each : List.Forall₂ (population.BornOf poll)
    (population.cells.filter (population.fertile poll)) children
  births : report.snapshot.metrics.births = children.length
  recorded : ∃ earlier, earlier.length = population.cells.length + population.seeds ∧
    report.fitness = earlier ++ children.map fun child =>
      { tick := population.generation + 1
        cell := child.id
        descriptor := child.descriptor
        score := population.scores poll child.descriptor }
  present : ∀ cell ∈ report.snapshot.cells, cell.bornTick = population.generation + 1 →
    cell.parent.isSome = true → cell ∈ children

namespace Account

variable {founders children : List Cell} {middle : Random.Source} {stages : Stages}

theorem memory_afterDeaths (account : population.Account poll founders children middle stages) :
    stages.afterDeaths.2 = population.mourning poll := by
  have hdying : stages.dying = (population.cells.filter (population.doomed poll)).map fun cell =>
      (cell.scored (population.scores poll)).dead := by
    rw [account.dying, reviewed, List.filter_map, List.map_map]
    congr 2
    funext cell
    exact meets_dies population poll cell
  rw [account.afterDeaths, hdying, mourning]

theorem parents_eq (valid : population.config.Valid)
    (account : population.Account poll founders children middle stages) :
    stages.survivors.filter (·.meets population.config.selection .reproduces) =
      (population.cells.filter (population.fertile poll)).map
        (Cell.scored (population.scores poll)) := by
  rw [account.survivors, List.filter_filter, reviewed, List.filter_map]
  congr 2
  funext cell
  rw [Function.comp_apply, meets_reproduces valid, meets_dies]
  cases hfertile : population.fertile poll cell with
  | false => rfl
  | true =>
      rw [not_doomed_of_fertile valid hfertile]
      rfl

theorem bornOf (sound : population.Sound)
    (account : population.Account poll founders children middle stages) :
    List.Forall₂ (population.BornOf poll) (population.cells.filter (population.fertile poll))
      stages.children.cells := by
  have hmade := (account.children_made sound).each
  rw [account.parents_eq sound.valid, List.forall₂_map_left_iff, account.memory_afterDeaths]
    at hmade
  rw [account.children_cells, List.forall₂_map_right_iff]
  refine hmade.imp fun parent child h => ?_
  exact ⟨h.parent_eq, h.lineageDepth, h.bornTick, h.age, h.inBounds, h.descends⟩

theorem children_ids (sound : population.Sound)
    (account : population.Account poll founders children middle stages) :
    stages.children.cells.map (·.id) =
      List.range' (population.nextId + population.seeds) stages.children.cells.length := by
  have hmade := account.children_made sound
  rw [account.children_cells, List.map_map, List.length_map, hmade.length_eq]
  exact hmade.ids

theorem records_eq (sound : population.Sound)
    (account : population.Account poll founders children middle stages) :
    ∃ earlier, earlier.length = population.cells.length + population.seeds ∧
      stages.records = earlier ++ stages.children.cells.map fun child =>
        { tick := population.generation + 1
          cell := child.id
          descriptor := child.descriptor
          score := population.scores poll child.descriptor } := by
  refine ⟨stages.established.records ++ stages.founders.records, ?_, ?_⟩
  · have hfounders := (account.founders_made sound.valid).length_eq
    rw [account.established, account.founders, List.length_append, Evaluation.of, Evaluation.of,
      List.length_map, List.length_map, hfounders]
  · rw [Stages.records, account.children_cells, account.children, List.map_map]
    rfl

theorem mem_children_of_born (sound : population.Sound)
    (account : population.Account poll founders children middle stages) {cell : Cell}
    (h : cell ∈ stages.cells) (hborn : cell.bornTick = population.generation + 1)
    (hparent : cell.parent.isSome = true) : cell ∈ stages.children.cells := by
  obtain ⟨kept, hkept, rfl⟩ := List.mem_map.mp h
  have hsame := Cell.sameAs_aged stages.tick kept
  rw [hsame.bornTick] at hborn
  rw [hsame.parent] at hparent
  have hline := account.lineup_of_kept hkept
  rw [Stages.lineup, List.mem_append, List.mem_append, or_assoc] at hline
  -- Survivors were born before this tick, and founders have no parent.
  rcases hline with hsurvivor | hfounder | hchild
  · obtain ⟨before, hbefore, -, rfl⟩ := account.mem_survivors.mp hsurvivor
    have hage := (sound.each before hbefore).age_eq
    rw [Cell.bornTick_scored] at hborn
    omega
  · rw [(account.mem_founders sound hfounder).2.2.1] at hparent
    cases hparent
  · rw [Cell.aged_of_le (by rw [account.tick, hborn])]
    exact hchild

end Account

theorem tick_reproduces (config : FieldConfig) (interpret : Interpreter) (source : Random.Source)
    (accepted : config.check = .ok ()) (calls : List Call) (population : Population)
    (reached : (fresh config interpret source).run calls = .ok population) (poll : Poll) :
    ∃ report next stages, population.tick poll = .ok (report, next) ∧
      population.stages poll = .ok stages ∧
      population.Reproduced poll report stages.children.cells := by
  have sound := sound_of_run accepted reached
  obtain ⟨report, next, htick⟩ := exists_tick sound poll
  obtain ⟨stages, hstages, rfl, hreport⟩ := tick_eq_ok htick
  obtain ⟨founders, children, middle, account⟩ := account_of_stages hstages
  subst hreport
  refine ⟨_, _, stages, htick, hstages, ?_⟩
  exact {
    parents := sound.ascending.sublist List.filter_sublist
    ids := account.children_ids sound
    each := account.bornOf sound
    births := rfl
    recorded := account.records_eq sound
    present := fun cell hcell => account.mem_children_of_born sound hcell }

/-- A cell that a replay revived is fit enough for a child in the next tick. -/
theorem tick_reproduces_revived :
    ∃ population : Population, FieldConfig.check {} = .ok () ∧
      (fresh {} (fun _ _ => ⟨0.8, 0.5, 0⟩) (.seeded 7)).run
        [.replay [.fitness ⟨3, 17, .recurrent 2 64, ⟨0.9, 0.4, 0.25, 0.25, false⟩⟩]] =
          .ok population ∧
      ∃ (report : TickReport) (next : Population) (stages : Stages),
        population.tick (.ok []) = .ok (report, next) ∧
          population.Reproduced (.ok []) report stages.children.cells ∧
          stages.children.cells.length = 1 := by
  have accepted : FieldConfig.check {} = .ok () := by rfl
  refine ⟨_, accepted, rfl, ?_⟩
  obtain ⟨report, next, stages, htick, -, hreproduced⟩ :=
    tick_reproduces {} (fun _ _ => ⟨0.8, 0.5, 0⟩) (.seeded 7) accepted
      [.replay [.fitness ⟨3, 17, .recurrent 2 64, ⟨0.9, 0.4, 0.25, 0.25, false⟩⟩]] _ rfl (.ok [])
  refine ⟨report, next, stages, htick, hreproduced, ?_⟩
  rw [← hreproduced.each.length_eq]
  decide +kernel

end Population

end Vivarium
