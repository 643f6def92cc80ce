import Vivarium.Proofs.Population.Conservation

/-!
# What a tick reports

A tick evaluates in three goes: the cells that were there, then the founders,
then the children, each as soon as it is needed. In between cells die, and at
the end some are culled. None of this disturbs the report. A record is the
record of a cell and of nothing else, so all records together are the records
of all cells together, whichever go they came from; and whoever is left at the
end went through exactly one of the three goes, and has not been evaluated
since. The context is taken in before the first go and is the context that the
tick leaves, so one and the same score stands behind all of it.
-/

namespace Vivarium

/-- The record of the evaluation of a cell. -/
def Cell.record (tick : Nat) (score : Descriptor → Score) (cell : Cell) : FitnessRecord :=
  { tick, cell := cell.id, descriptor := cell.descriptor, score := score cell.descriptor }

@[simp] theorem Cell.record_scored (tick : Nat) (score : Descriptor → Score) :
    Cell.record tick score ∘ Cell.scored score = Cell.record tick score :=
  rfl

theorem Evaluation.records_of (tick : Nat) (score : Descriptor → Score) (cells : List Cell) :
    (Evaluation.of tick score cells).records = cells.map (Cell.record tick score) :=
  rfl

namespace Population

variable {population : Population} {poll : Poll}

/-- What a tick with the given founders and children reports, and leaves. -/
structure Reported (population : Population) (founders children : List Cell)
    (report : TickReport) (next : Population) : Prop where
  evaluated : report.fitness.map (fun record => (record.cell, record.descriptor)) =
    (population.cells ++ founders ++ children).map fun cell => (cell.id, cell.descriptor)
  ascending : report.fitness.Pairwise fun earlier later => earlier.cell < later.cell
  founded : founders.length =
    if population.cells = [] then population.config.population.initialSize else 0
  founders_made : ∀ founder ∈ founders, founder.bornTick = next.generation ∧ founder.parent = none
  children_made : ∀ child ∈ children, child.bornTick = next.generation ∧
    ∃ parent ∈ population.cells, child.parent = some parent.id
  scored : ∀ record ∈ report.fitness, record.tick = next.generation ∧
    record.score = population.config.fitness.evaluate population.interpret next.context
      record.descriptor
  faults : report.snapshot.metrics.faults = report.fitness.countP (·.score.fault)
  snapshot : report.snapshot = next.snapshot
  cells : report.snapshot.cells = next.cells
  recorded : ∀ cell ∈ report.snapshot.cells, ∃ record ∈ report.fitness, record.cell = cell.id ∧
    record.descriptor = cell.descriptor ∧ cell.fitness = .of record.score.fitness
  alike : ∀ cell ∈ report.snapshot.cells, ∀ other ∈ report.snapshot.cells,
    cell.descriptor = other.descriptor → cell.fitness = other.fitness
  affect : report.snapshot.metrics.meanAffect = next.context.meanAffect ∧
    report.snapshot.metrics.affectVariance = next.context.affectVariance
  size : report.snapshot.metrics.population = report.snapshot.cells.length
  extinct : report.snapshot.metrics.extinct = true ↔ report.snapshot.cells = []
  reseeded : report.snapshot.metrics.reseeded = true ↔ population.cells = []
  births : report.snapshot.metrics.births = children.length
  balance : report.snapshot.metrics.population + report.snapshot.metrics.deaths +
      report.snapshot.metrics.culled =
    (if report.snapshot.metrics.reseeded then population.config.population.initialSize
      else population.cells.length) + report.snapshot.metrics.births

namespace Account

variable {founders children : List Cell} {middle : Random.Source} {stages : Stages}

theorem records_of_all (account : population.Account poll founders children middle stages) :
    stages.records =
      (population.cells ++ stages.founders.cells ++ stages.children.cells).map
        (Cell.record (population.generation + 1) (population.scores poll)) := by
  have hestablished : stages.established.records =
      population.cells.map (Cell.record (population.generation + 1) (population.scores poll)) := by
    rw [account.established, Evaluation.records_of]
  rw [Stages.records, hestablished, account.founders_cells, account.children_cells,
    account.founders, account.children]
  simp [Evaluation.records_of]

theorem evaluated_ascending (sound : population.Sound)
    (account : population.Account poll founders children middle stages) :
    Ascending (population.cells ++ stages.founders.cells ++ stages.children.cells) := by
  have hids := account.newcomers_ids sound
  have hnew : Ascending (stages.founders.cells ++ stages.children.cells) :=
    Ascending.of_ids hids List.pairwise_lt_range'
  rw [List.append_assoc]
  refine List.pairwise_append.mpr ⟨sound.ascending, hnew, fun before hbefore made hmade => ?_⟩
  have hlt := (sound.each before hbefore).id_lt
  have hmem : made.id ∈ (stages.founders.cells ++ stages.children.cells).map (·.id) :=
    List.mem_map_of_mem hmade
  rw [hids, List.mem_range'_1] at hmem
  omega

theorem scores_eq (account : population.Account poll founders children middle stages) :
    population.scores poll = population.config.fitness.evaluate population.interpret
      (population.after stages).context := by
  funext d
  show _ = population.config.fitness.evaluate population.interpret stages.ingest.context d
  rw [account.ingest]
  rfl

theorem scored_of_record (account : population.Account poll founders children middle stages)
    {record : FitnessRecord} (h : record ∈ stages.records) :
    record.tick = population.generation + 1 ∧
      record.score = population.scores poll record.descriptor := by
  rw [account.records_of_all] at h
  obtain ⟨cell, -, rfl⟩ := List.mem_map.mp h
  exact ⟨rfl, rfl⟩

/-- Whoever is left at the end of a tick carries the fitness of that tick's one evaluation. -/
theorem fitness_eq_scores (sound : population.Sound)
    (account : population.Account poll founders children middle stages) {cell : Cell}
    (h : cell ∈ stages.cells) :
    cell.fitness = .of (population.scores poll cell.descriptor).fitness := by
  rcases account.mem_cells sound h with ⟨before, -, rfl⟩ | ⟨-, made, -, rfl⟩ <;> rfl

theorem exists_evaluated (account : population.Account poll founders children middle stages)
    {cell : Cell} (h : cell ∈ stages.cells) :
    ∃ before ∈ population.cells ++ stages.founders.cells ++ stages.children.cells,
      before.SameAs cell := by
  obtain ⟨kept, -, hsame, hfrom⟩ := account.mem_lineup_cases h
  simp only [List.mem_append]
  rcases hfrom with hsurvivor | hfounder | hchild
  · obtain ⟨before, hbefore, -, rfl⟩ := account.mem_survivors.mp hsurvivor
    exact ⟨before, .inl (.inl hbefore), (Cell.sameAs_scored _ before).trans hsame⟩
  · exact ⟨kept, .inl (.inr hfounder), hsame⟩
  · exact ⟨kept, .inr hchild, hsame⟩

theorem exists_record_of_present (sound : population.Sound)
    (account : population.Account poll founders children middle stages) {cell : Cell}
    (h : cell ∈ stages.cells) : ∃ record ∈ stages.records, record.cell = cell.id ∧
      record.descriptor = cell.descriptor ∧ cell.fitness = .of record.score.fitness := by
  obtain ⟨before, hbefore, hsame⟩ := account.exists_evaluated h
  rw [account.records_of_all]
  refine ⟨_, List.mem_map_of_mem hbefore, hsame.id.symm, hsame.descriptor.symm, ?_⟩
  rw [account.fitness_eq_scores sound h, hsame.descriptor]
  rfl

theorem head_count (sound : population.Sound)
    (account : population.Account poll founders children middle stages) :
    stages.cells.length + stages.dying.length + stages.culling.culled.length =
      population.cells.length + population.seeds + stages.children.cells.length := by
  have hline := account.length_lineup sound
  have hcells := account.length_cells
  have hculled := account.length_culled
  have hdying := account.length_dying
  have hchildren := account.length_children sound
  omega

theorem population_balance (sound : population.Sound)
    (account : population.Account poll founders children middle stages) :
    stages.metrics.population + stages.metrics.deaths + stages.metrics.culled =
      (if stages.metrics.reseeded then population.config.population.initialSize
        else population.cells.length) + stages.metrics.births := by
  have hcount := account.head_count sound
  rw [account.reseeded]
  show stages.cells.length + stages.dying.length + stages.culling.culled.length =
    _ + stages.children.cells.length
  rw [hcount, seeds]
  cases hcells : population.cells <;> simp

theorem reported (sound : population.Sound)
    (account : population.Account poll founders children middle stages) {report : TickReport}
    (hsnapshot : report.snapshot = (population.after stages).snapshot)
    (hfitness : report.fitness = stages.records) :
    population.Reported stages.founders.cells stages.children.cells report
      (population.after stages) := by
  have hrecords := account.records_of_all
  have htick : (population.after stages).generation = population.generation + 1 := account.tick
  -- The records are read off one list of the evaluated cells, all else off the stages.
  constructor
  case evaluated =>
    rw [hfitness, hrecords, List.map_map]
    rfl
  case ascending =>
    rw [hfitness, hrecords, List.pairwise_map]
    exact account.evaluated_ascending sound
  case founded =>
    rw [account.length_founders sound]
    simp only [seeds, List.isEmpty_iff]
  case founders_made =>
    intro founder hfounder
    obtain ⟨-, hborn, hparent, -⟩ := account.mem_founders sound hfounder
    exact ⟨hborn.trans htick.symm, hparent⟩
  case children_made =>
    intro child hchild
    obtain ⟨-, hborn, parent, hparent, -, hof⟩ := account.mem_children sound hchild
    exact ⟨hborn.trans htick.symm, parent, hparent, hof⟩
  case scored =>
    rw [hfitness, htick, ← account.scores_eq]
    exact fun record hrecord => account.scored_of_record hrecord
  case snapshot => exact hsnapshot
  all_goals rw [hsnapshot]
  case recorded =>
    rw [hfitness]
    exact fun cell hcell => account.exists_record_of_present sound hcell
  case alike =>
    intro cell hcell other hother heq
    rw [account.fitness_eq_scores sound hcell, account.fitness_eq_scores sound hother, heq]
  case faults =>
    rw [hfitness]
    rfl
  case extinct => exact List.isEmpty_iff
  case reseeded => exact (Bool.eq_iff_iff.mp account.reseeded).trans List.isEmpty_iff
  case balance => exact account.population_balance sound
  case affect => exact ⟨rfl, rfl⟩
  case cells | size | births => rfl

end Account

theorem tick_reports (config : FieldConfig) (interpret : Interpreter) (source : Random.Source)
    (accepted : config.check = .ok ()) (calls : List Call) (population : Population)
    (reached : (fresh config interpret source).run calls = .ok population) (poll : Poll) :
    ∃ report next stages, population.tick poll = .ok (report, next) ∧
      population.stages poll = .ok stages ∧
      population.Reported stages.founders.cells stages.children.cells report next := by
  have sound := sound_of_run accepted reached
  obtain ⟨report, next, htick⟩ := exists_tick sound poll
  obtain ⟨stages, hstages, rfl, hreport⟩ := tick_eq_ok htick
  obtain ⟨founders, children, middle, account⟩ := account_of_stages hstages
  subst hreport
  exact ⟨_, _, stages, htick, hstages, account.reported sound rfl rfl⟩

/-- A revived cell and its child, both evaluated within one tick. -/
theorem tick_reports_revived :
    ∃ population : Population, FieldConfig.check {} = .ok () ∧
      (fresh {} (fun _ _ => ⟨0.8, 0.5, 0⟩) (.seeded 7)).run
        [.replay [.fitness ⟨3, 17, .recurrent 2 64, ⟨0.9, 0.4, 0.25, 0.25, false⟩⟩]] =
          .ok population ∧
      ∃ (report : TickReport) (next : Population) (stages : Stages),
        population.tick (.ok []) = .ok (report, next) ∧
          population.Reported stages.founders.cells stages.children.cells report next ∧
          report.fitness.length = 2 := by
  have accepted : FieldConfig.check {} = .ok () := by rfl
  have reached : (fresh {} (fun _ _ => ⟨0.8, 0.5, 0⟩) (.seeded 7)).run
      [.replay [.fitness ⟨3, 17, .recurrent 2 64, ⟨0.9, 0.4, 0.25, 0.25, false⟩⟩]] = .ok _ := rfl
  refine ⟨_, accepted, reached, ?_⟩
  obtain ⟨report, next, stages, htick, hstages, hreported⟩ :=
    tick_reports {} (fun _ _ => ⟨0.8, 0.5, 0⟩) (.seeded 7) accepted _ _ reached (.ok [])
  refine ⟨report, next, stages, htick, hreported, ?_⟩
  obtain ⟨founders, children, middle, account⟩ := account_of_stages hstages
  have hbirths := account.length_children (sound_of_run accepted reached)
  have hlength := congrArg List.length hreported.evaluated
  rw [List.length_map, List.length_map, List.length_append, List.length_append,
    hreported.founded, hbirths] at hlength
  rw [hlength]
  decide +kernel

end Population

end Vivarium
