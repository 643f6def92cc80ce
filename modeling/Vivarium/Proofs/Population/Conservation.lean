import Vivarium.Proofs.Population.Run
import Vivarium.Proofs.Number.Words

/-!
# Nothing is lost in a tick

Selection divides the cells that were there into those that die, those that
live on and those that reproduce as well, and it does so by the fitness that
this tick finds. No fitness lies below the one threshold and above the other,
because the thresholds are in order and the comparison of singles is
transitive. So the deaths and births of a tick can be counted on the cells it
starts with, and everything culling is offered is either kept or culled: the
numbers at the end of the tick follow from those two counts alone.
-/

namespace Vivarium

open Number

namespace SelectionConfig

theorem judge_eq_dies {config : SelectionConfig} {fitness : Float32} :
    config.judge fitness = .dies ↔ fitness < config.death := by
  unfold judge
  split
  · next h => exact ⟨fun _ => h, fun _ => rfl⟩
  · next h =>
      split
      · exact ⟨fun heq => (by cases heq), fun hlt => absurd hlt h⟩
      · exact ⟨fun heq => (by cases heq), fun hlt => absurd hlt h⟩

theorem judge_eq_reproduces {config : SelectionConfig} (ordered : config.death < config.birth)
    {fitness : Float32} : config.judge fitness = .reproduces ↔ config.birth < fitness := by
  unfold judge
  split
  · next h =>
      refine ⟨fun heq => (by cases heq), fun hlt => ?_⟩
      -- Below the lower threshold and above the upper one: a circle of strict comparisons.
      exact absurd (single_lt_trans (single_lt_trans h ordered) hlt) (single_lt_irrefl fitness)
  · split
    · next h => exact ⟨fun _ => h, fun _ => rfl⟩
    · next h => exact ⟨fun heq => (by cases heq), fun hlt => absurd hlt h⟩

end SelectionConfig

/-- Whether two cells are one at two times, as far as a cell never changes. -/
structure Cell.SameAs (before after : Cell) : Prop where
  id : after.id = before.id
  descriptor : after.descriptor = before.descriptor
  parent : after.parent = before.parent
  lineageDepth : after.lineageDepth = before.lineageDepth
  bornTick : after.bornTick = before.bornTick

theorem Cell.SameAs.trans {a b c : Cell} (hab : a.SameAs b) (hbc : b.SameAs c) : a.SameAs c where
  id := hbc.id.trans hab.id
  descriptor := hbc.descriptor.trans hab.descriptor
  parent := hbc.parent.trans hab.parent
  lineageDepth := hbc.lineageDepth.trans hab.lineageDepth
  bornTick := hbc.bornTick.trans hab.bornTick

theorem Cell.sameAs_scored (score : Descriptor → Score) (cell : Cell) :
    cell.SameAs (cell.scored score) :=
  ⟨rfl, rfl, rfl, rfl, rfl⟩

theorem Cell.sameAs_dead (cell : Cell) : cell.SameAs cell.dead :=
  ⟨rfl, rfl, rfl, rfl, rfl⟩

theorem Cell.sameAs_aged (tick : Nat) (cell : Cell) : cell.SameAs (cell.aged tick) := by
  unfold aged
  split <;> exact ⟨rfl, rfl, rfl, rfl, rfl⟩

namespace Population

variable {population : Population} {poll : Poll}

/-- The fitness of a cell that a tick finds: in the context that the tick takes in. -/
def freshFitness (population : Population) (poll : Poll) (cell : Cell) : Float32 :=
  (population.scores poll cell.descriptor).fitness

/-- Whether a cell's fresh fitness lies below the death threshold. -/
def doomed (population : Population) (poll : Poll) (cell : Cell) : Bool :=
  population.freshFitness poll cell < population.config.selection.death

/-- Whether a cell's fresh fitness lies above the birth threshold. -/
def fertile (population : Population) (poll : Poll) (cell : Cell) : Bool :=
  population.config.selection.birth < population.freshFitness poll cell

theorem meets_scored (population : Population) (poll : Poll) (cell : Cell) (fate : Fate) :
    (cell.scored (population.scores poll)).meets population.config.selection fate =
      (population.config.selection.judge (population.freshFitness poll cell) == fate) := by
  rw [Cell.meets, Cell.fitness_scored, Single.value_of]
  rfl

theorem meets_dies (population : Population) (poll : Poll) (cell : Cell) :
    (cell.scored (population.scores poll)).meets population.config.selection .dies =
      population.doomed poll cell := by
  rw [meets_scored, Bool.eq_iff_iff, doomed, decide_eq_true_eq, ← SelectionConfig.judge_eq_dies]
  exact beq_iff_eq

theorem meets_reproduces (valid : population.config.Valid) (poll : Poll) (cell : Cell) :
    (cell.scored (population.scores poll)).meets population.config.selection .reproduces =
      population.fertile poll cell := by
  rw [meets_scored, Bool.eq_iff_iff, fertile, decide_eq_true_eq,
    ← SelectionConfig.judge_eq_reproduces valid.death_lt_birth]
  exact beq_iff_eq

theorem not_doomed_of_fertile (valid : population.config.Valid) {cell : Cell}
    (h : population.fertile poll cell = true) : population.doomed poll cell = false := by
  rw [← meets_reproduces valid, meets_scored, beq_iff_eq] at h
  rw [← meets_dies, meets_scored, h]
  rfl

theorem seeds_of_ne_nil (h : population.cells ≠ []) : population.seeds = 0 := by
  rw [seeds, if_neg]
  rwa [List.isEmpty_iff]

/-! ## Counting -/

namespace Account

variable {founders children : List Cell} {middle : Random.Source} {stages : Stages}

theorem length_dying (account : population.Account poll founders children middle stages) :
    stages.dying.length = population.cells.countP (population.doomed poll) := by
  rw [account.dying, List.length_map, ← List.countP_eq_length_filter, reviewed, List.countP_map]
  exact List.countP_congr fun cell _ => by rw [← meets_dies]; rfl

theorem length_survivors (account : population.Account poll founders children middle stages) :
    stages.survivors.length + population.cells.countP (population.doomed poll) =
      population.cells.length := by
  have hsurvivors : stages.survivors.length =
      population.cells.countP fun cell => ¬ population.doomed poll cell := by
    rw [account.survivors, ← List.countP_eq_length_filter, reviewed, List.countP_map]
    refine List.countP_congr fun cell _ => ?_
    rw [Function.comp_apply, meets_dies, Bool.not_eq_true', decide_eq_true_eq, Bool.not_eq_true]
  have hsplit := List.length_eq_countP_add_countP (population.doomed poll) (l := population.cells)
  omega

theorem length_children (sound : population.Sound)
    (account : population.Account poll founders children middle stages) :
    stages.children.cells.length = population.cells.countP (population.fertile poll) := by
  rw [account.children_cells, List.length_map, (account.children_made sound).length_eq,
    account.survivors, List.filter_filter, ← List.countP_eq_length_filter, reviewed,
    List.countP_map]
  refine List.countP_congr fun cell _ => ?_
  rw [Function.comp_apply, meets_reproduces sound.valid, meets_dies]
  constructor
  · intro h
    exact (Bool.and_eq_true_iff.mp h).1
  · intro h
    rw [h, not_doomed_of_fertile sound.valid h]
    rfl

theorem length_founders (sound : population.Sound)
    (account : population.Account poll founders children middle stages) :
    stages.founders.cells.length = population.seeds := by
  rw [account.founders_cells, List.length_map, (account.founders_made sound.valid).length_eq]

theorem length_lineup (sound : population.Sound)
    (account : population.Account poll founders children middle stages) :
    stages.lineup.length + population.cells.countP (population.doomed poll) =
      population.cells.length + population.seeds +
        population.cells.countP (population.fertile poll) := by
  have hsurvivors := account.length_survivors
  rw [Stages.lineup, List.length_append, List.length_append, account.length_founders sound,
    account.length_children sound]
  omega

theorem length_culled (account : population.Account poll founders children middle stages) :
    stages.culling.culled.length =
      stages.lineup.length - population.config.population.maxSize := by
  rw [account.culling, Vivarium.length_culled]

theorem reseeded (account : population.Account poll founders children middle stages) :
    stages.metrics.reseeded = population.cells.isEmpty := by
  show stages.established.cells.isEmpty = _
  rw [account.established, Evaluation.cells_of, List.isEmpty_map]

theorem exists_record (account : population.Account poll founders children middle stages)
    {cell : Cell} (h : cell ∈ population.cells) : ∃ record ∈ stages.records,
      record.cell = cell.id ∧ record.score.fitness = population.freshFitness poll cell := by
  refine ⟨{ tick := population.generation + 1, cell := cell.id, descriptor := cell.descriptor,
            score := population.scores poll cell.descriptor }, ?_, rfl, rfl⟩
  unfold Stages.records
  rw [account.established]
  exact List.mem_append_left _ (List.mem_append_left _ (List.mem_map_of_mem h))

/-! ## Telling cells apart -/

theorem mem_survivors (account : population.Account poll founders children middle stages)
    {cell : Cell} : cell ∈ stages.survivors ↔ ∃ before ∈ population.cells,
      population.doomed poll before = false ∧ before.scored (population.scores poll) = cell := by
  rw [account.survivors, List.mem_filter, mem_reviewed, Bool.not_eq_true']
  constructor
  · rintro ⟨⟨before, hbefore, rfl⟩, hnot⟩
    rw [meets_dies] at hnot
    exact ⟨before, hbefore, hnot, rfl⟩
  · rintro ⟨before, hbefore, hnot, rfl⟩
    rw [meets_dies]
    exact ⟨⟨before, hbefore, rfl⟩, hnot⟩

theorem mem_children (sound : population.Sound)
    (account : population.Account poll founders children middle stages) {cell : Cell}
    (h : cell ∈ stages.children.cells) : population.nextId ≤ cell.id ∧
      cell.bornTick = population.generation + 1 ∧ ∃ parent ∈ population.cells,
        population.fertile poll parent = true ∧ cell.parent = some parent.id := by
  have hmade := account.children_made sound
  rw [account.children_cells] at h
  obtain ⟨made, hmem, rfl⟩ := List.mem_map.mp h
  have hid : made.id ∈ children.map (·.id) := List.mem_map_of_mem hmem
  rw [hmade.ids, List.mem_range'_1] at hid
  obtain ⟨parent, hparent, hchild⟩ := hmade.newcomer made hmem
  obtain ⟨hsurvivor, hmeets⟩ := List.mem_filter.mp hparent
  obtain ⟨before, hbefore, -, rfl⟩ := account.mem_survivors.mp hsurvivor
  rw [meets_reproduces sound.valid] at hmeets
  refine ⟨Nat.le_trans (Nat.le_add_right _ _) hid.1, hchild.bornTick, before, hbefore, hmeets, ?_⟩
  exact hchild.parent_eq

theorem mem_founders (sound : population.Sound)
    (account : population.Account poll founders children middle stages) {cell : Cell}
    (h : cell ∈ stages.founders.cells) : population.nextId ≤ cell.id ∧
      cell.bornTick = population.generation + 1 ∧ cell.parent = none ∧ cell.lineageDepth = 0 := by
  have hmade := account.founders_made sound.valid
  rw [account.founders_cells] at h
  obtain ⟨made, hmem, rfl⟩ := List.mem_map.mp h
  have hid : made.id ∈ founders.map (·.id) := List.mem_map_of_mem hmem
  rw [hmade.ids, List.mem_range'_1] at hid
  have hfounder := hmade.each made hmem
  exact ⟨hid.1, hfounder.bornTick, hfounder.parent, hfounder.lineageDepth⟩

theorem mem_lineup_cases (account : population.Account poll founders children middle stages)
    {cell : Cell} (h : cell ∈ stages.cells) : ∃ kept ∈ stages.culling.kept,
      kept.SameAs cell ∧ (kept ∈ stages.survivors ∨ kept ∈ stages.founders.cells ∨
        kept ∈ stages.children.cells) := by
  obtain ⟨kept, hkept, rfl⟩ := List.mem_map.mp h
  refine ⟨kept, hkept, Cell.sameAs_aged stages.tick kept, ?_⟩
  have hline := account.lineup_of_kept hkept
  rw [Stages.lineup, List.mem_append, List.mem_append, or_assoc] at hline
  exact hline

/-- There are founders in an empty population only. -/
theorem cells_eq_nil_of_founder (sound : population.Sound)
    (account : population.Account poll founders children middle stages) {cell : Cell}
    (h : cell ∈ stages.founders.cells) : population.cells = [] := by
  by_contra live
  have hnone := account.length_founders sound
  rw [seeds_of_ne_nil live, List.length_eq_zero_iff] at hnone
  rw [hnone] at h
  cases h

/-- Whoever is left was there before, or founds an empty population, or was born of one who was
there. -/
theorem origin_of_present (sound : population.Sound)
    (account : population.Account poll founders children middle stages) {present : Cell}
    (h : present ∈ stages.cells) :
    (∃ cell ∈ population.cells, cell.SameAs present) ∨
      (population.cells = [] ∧ present.bornTick = population.generation + 1 ∧
        present.parent = none ∧ present.lineageDepth = 0) ∨
      (present.bornTick = population.generation + 1 ∧ ∃ parent ∈ population.cells,
        population.fertile poll parent = true ∧ present.parent = some parent.id) := by
  obtain ⟨kept, -, hsame, hfrom⟩ := account.mem_lineup_cases h
  rcases hfrom with hsurvivor | hfounder | hchild
  · obtain ⟨before, hbefore, -, rfl⟩ := account.mem_survivors.mp hsurvivor
    exact .inl ⟨before, hbefore, (Cell.sameAs_scored _ before).trans hsame⟩
  · obtain ⟨-, hborn, hparent, hdepth⟩ := account.mem_founders sound hfounder
    have hempty := account.cells_eq_nil_of_founder sound hfounder
    exact .inr (.inl ⟨hempty, hsame.bornTick.trans hborn, hsame.parent.trans hparent,
      hsame.lineageDepth.trans hdepth⟩)
  · obtain ⟨-, hborn, parent, hparent, hfertile, hof⟩ := account.mem_children sound hchild
    exact .inr (.inr ⟨hsame.bornTick.trans hborn, parent, hparent, hfertile,
      hsame.parent.trans hof⟩)

theorem kept_or_culled (account : population.Account poll founders children middle stages)
    {cell : Cell} (hcell : cell ∈ population.cells) (spared : population.doomed poll cell = false) :
    (∃ present ∈ stages.cells, cell.SameAs present) ∨
      ∃ gone ∈ stages.culling.culled, cell.SameAs gone := by
  have hsurvivor := account.mem_survivors.mpr ⟨cell, hcell, spared, rfl⟩
  have hsame := Cell.sameAs_scored (population.scores poll) cell
  rcases account.kept_or_dead (List.mem_append_left _ (List.mem_append_left _ hsurvivor)) with
    hkept | hdead
  · exact .inl ⟨_, List.mem_map_of_mem hkept, hsame.trans (Cell.sameAs_aged _ _)⟩
  · exact .inr ⟨_, hdead, hsame.trans (Cell.sameAs_dead _)⟩

theorem not_kept_and_culled (sound : population.Sound)
    (account : population.Account poll founders children middle stages) {present gone : Cell}
    (hpresent : present ∈ stages.cells) (hgone : gone ∈ stages.culling.culled) :
    present.id ≠ gone.id := by
  obtain ⟨chosen, hculled, hperm⟩ := account.divides
  have hline := account.lineup_ascending sound
  have hnodup : (stages.culling.kept ++ chosen).Nodup :=
    hperm.nodup_iff.mpr (hline.imp fun {a b} hlt heq => by subst heq; omega)
  obtain ⟨kept, hkept, rfl⟩ := List.mem_map.mp hpresent
  rw [hculled] at hgone
  obtain ⟨culled, hchosen, rfl⟩ := List.mem_map.mp hgone
  intro heq
  rw [Cell.id_aged] at heq
  have hsame : kept = culled := hline.eq_of_id_eq
    (hperm.mem_iff.mp (List.mem_append_left _ hkept))
    (hperm.mem_iff.mp (List.mem_append_right _ hchosen)) heq
  subst hsame
  exact (List.disjoint_of_nodup_append hnodup) hkept hchosen

theorem doomed_absent (sound : population.Sound)
    (account : population.Account poll founders children middle stages) {cell present : Cell}
    (hcell : cell ∈ population.cells) (hdoomed : population.doomed poll cell = true)
    (hpresent : present ∈ stages.cells) : present.id ≠ cell.id := by
  have hlt := (sound.each cell hcell).id_lt
  obtain ⟨kept, -, hsame, hfrom⟩ := account.mem_lineup_cases hpresent
  rw [hsame.id]
  intro heq
  rcases hfrom with hsurvivor | hfounder | hchild
  · obtain ⟨before, hbefore, hnot, rfl⟩ := account.mem_survivors.mp hsurvivor
    rw [sound.ascending.eq_of_id_eq hbefore hcell heq, hdoomed] at hnot
    cases hnot
  · have hle := (account.mem_founders sound hfounder).1
    omega
  · have hle := (account.mem_children sound hchild).1
    omega

end Account

/-! ## What a tick does with the cells it starts with -/

/-- What a tick of a population with live cells reports and leaves, and whom it culls. -/
structure Selected (population : Population) (poll : Poll) (report : TickReport)
    (culled : List Cell) : Prop where
  evaluated : ∀ cell ∈ population.cells, ∃ record ∈ report.fitness,
    record.cell = cell.id ∧ record.score.fitness = population.freshFitness poll cell
  deaths : report.snapshot.metrics.deaths = population.cells.countP (population.doomed poll)
  births : report.snapshot.metrics.births = population.cells.countP (population.fertile poll)
  culls : report.snapshot.metrics.culled =
    population.cells.length - population.cells.countP (population.doomed poll) +
      population.cells.countP (population.fertile poll) - population.config.population.maxSize
  culled_length : culled.length = report.snapshot.metrics.culled
  not_reseeded : report.snapshot.metrics.reseeded = false
  size : report.snapshot.cells.length = min population.config.population.maxSize
    (population.cells.length - population.cells.countP (population.doomed poll) +
      population.cells.countP (population.fertile poll))
  doomed_absent : ∀ cell ∈ population.cells, population.doomed poll cell = true →
    ∀ present ∈ report.snapshot.cells, present.id ≠ cell.id
  kept_or_culled : ∀ cell ∈ population.cells, population.doomed poll cell = false →
    (∃ present ∈ report.snapshot.cells, cell.SameAs present) ∨
      ∃ gone ∈ culled, cell.SameAs gone
  not_both : ∀ present ∈ report.snapshot.cells, ∀ gone ∈ culled, present.id ≠ gone.id
  rest_born : ∀ present ∈ report.snapshot.cells,
    (∃ cell ∈ population.cells, cell.SameAs present) ∨
      present.bornTick = population.generation + 1 ∧ ∃ parent ∈ population.cells,
        population.fertile poll parent = true ∧ present.parent = some parent.id

/-- What a tick of a population without live cells reports and leaves. -/
structure Seeded (population : Population) (report : TickReport) : Prop where
  deaths : report.snapshot.metrics.deaths = 0
  births : report.snapshot.metrics.births = 0
  culls : report.snapshot.metrics.culled = 0
  size : report.snapshot.cells.length = population.config.population.initialSize
  founders : ∀ cell ∈ report.snapshot.cells,
    cell.bornTick = population.generation + 1 ∧ cell.parent = none ∧ cell.lineageDepth = 0

theorem Account.selected {founders children : List Cell} {middle : Random.Source} {stages : Stages}
    (sound : population.Sound) (live : population.cells ≠ [])
    (account : population.Account poll founders children middle stages) {report : TickReport}
    (hreport : report.snapshot = (population.after stages).snapshot)
    (hfitness : report.fitness = stages.records) :
    population.Selected poll report stages.culling.culled := by
  have hseeds := seeds_of_ne_nil live
  have hline := account.length_lineup sound
  have hdoomed := List.countP_le_length (p := population.doomed poll) (l := population.cells)
  constructor
  case evaluated =>
    intro cell hcell
    rw [hfitness]
    exact account.exists_record hcell
  all_goals rw [hreport]
  case deaths => exact account.length_dying
  case births => exact account.length_children sound
  case culls =>
    show stages.culling.culled.length = _
    rw [account.length_culled]
    omega
  case culled_length => rfl
  case not_reseeded =>
    exact account.reseeded.trans (List.isEmpty_eq_false_iff.mpr live)
  case size =>
    show stages.cells.length = _
    rw [account.length_cells, Nat.min_comm]
    congr 1
    omega
  case doomed_absent =>
    exact fun cell hcell hfate present hpresent =>
      account.doomed_absent sound hcell hfate hpresent
  case kept_or_culled => exact fun cell hcell hfate => account.kept_or_culled hcell hfate
  case not_both =>
    exact fun present hpresent gone hgone => account.not_kept_and_culled sound hpresent hgone
  case rest_born =>
    intro present hpresent
    rcases account.origin_of_present sound hpresent with hbefore | ⟨hempty, -⟩ | hborn
    · exact .inl hbefore
    · exact absurd hempty live
    · exact .inr hborn

theorem Account.seeded {founders children : List Cell} {middle : Random.Source} {stages : Stages}
    (sound : population.Sound) (empty : population.cells = [])
    (account : population.Account poll founders children middle stages) {report : TickReport}
    (hreport : report.snapshot = (population.after stages).snapshot) :
    population.Seeded report := by
  have hseeds : population.seeds = population.config.population.initialSize := by
    rw [seeds, empty]
    rfl
  have hchildren : stages.children.cells = [] := by
    rw [← List.length_eq_zero_iff, account.length_children sound, empty]
    rfl
  have hline := account.length_lineup sound
  rw [empty, hseeds, List.countP_nil, List.countP_nil, List.length_nil] at hline
  have hmax := sound.valid.initial_le_max
  constructor
  all_goals rw [hreport]
  case deaths =>
    show stages.dying.length = 0
    rw [account.length_dying, empty]
    rfl
  case births =>
    show stages.children.cells.length = 0
    rw [hchildren]
    rfl
  case culls =>
    show stages.culling.culled.length = 0
    rw [account.length_culled]
    omega
  case size =>
    show stages.cells.length = _
    rw [account.length_cells]
    omega
  case founders =>
    intro cell hcell
    have horigin := account.origin_of_present sound hcell
    rw [empty] at horigin
    rcases horigin with ⟨before, hbefore, -⟩ | ⟨-, hfounder⟩ | ⟨-, parent, hparent, -⟩
    · cases hbefore
    · exact hfounder
    · cases hparent

theorem tick_conserves (config : FieldConfig) (interpret : Interpreter) (source : Random.Source)
    (accepted : config.check = .ok ()) (calls : List Call) (population : Population)
    (reached : (fresh config interpret source).run calls = .ok population) (poll : Poll) :
    ∃ report next stages, population.tick poll = .ok (report, next) ∧
      population.stages poll = .ok stages ∧
      report.snapshot.metrics.population = next.cells.length ∧
      report.snapshot.cells = next.cells ∧
      (population.cells ≠ [] → population.Selected poll report stages.culling.culled) ∧
      (population.cells = [] → population.Seeded report) := by
  have sound := sound_of_run accepted reached
  obtain ⟨report, next, htick⟩ := exists_tick sound poll
  obtain ⟨stages, hstages, rfl, hreport⟩ := tick_eq_ok htick
  obtain ⟨founders, children, middle, account⟩ := account_of_stages hstages
  subst hreport
  refine ⟨_, _, stages, htick, hstages, rfl, rfl, fun live => ?_, fun empty => ?_⟩
  · exact account.selected sound live rfl rfl
  · exact account.seeded sound empty rfl

/-- A tick of a population that a replay founded from one evaluation of the past. -/
theorem tick_conserves_revived :
    ∃ population : Population, FieldConfig.check {} = .ok () ∧
      (fresh {} (fun _ _ => ⟨0.8, 0.5, 0⟩) (.seeded 7)).run
        [.replay [.fitness ⟨3, 17, .recurrent 2 64, ⟨0.9, 0.4, 0.25, 0.25, false⟩⟩]] =
          .ok population ∧
      population.cells ≠ [] ∧
      ∃ (report : TickReport) (next : Population) (stages : Stages),
        population.tick (.ok []) = .ok (report, next) ∧
          population.Selected (.ok []) report stages.culling.culled := by
  have accepted : FieldConfig.check {} = .ok () := by rfl
  refine ⟨_, accepted, rfl, List.cons_ne_nil _ _, ?_⟩
  obtain ⟨report, next, stages, htick, -, -, -, hlive, -⟩ :=
    tick_conserves {} (fun _ _ => ⟨0.8, 0.5, 0⟩) (.seeded 7) accepted
      [.replay [.fitness ⟨3, 17, .recurrent 2 64, ⟨0.9, 0.4, 0.25, 0.25, false⟩⟩]] _ rfl (.ok [])
  exact ⟨report, next, stages, htick, hlive (List.cons_ne_nil _ _)⟩

end Population

end Vivarium
