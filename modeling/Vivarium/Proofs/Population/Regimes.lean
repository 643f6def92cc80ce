import Vivarium.Proofs.Population.Fed
import Vivarium.Proofs.Population.History
import Vivarium.Proofs.Population.Report

/-!
# Uniform regimes

As long as every fitness falls on the same side of both thresholds, nothing but
numbers is left of the dynamics. Between the thresholds nothing happens at all:
nobody dies, nobody is born, and nothing is drawn. Above both, everybody has a
child in every tick, so the population doubles until it is held at its bound.
Below both, everybody dies in the tick after the one that seeded them, since
founders are not judged in the tick that makes them, and an empty population is
seeded anew.

Which of these a tick is depends on the fitness that this tick finds, in the
context that it takes in, so contexts may change from tick to tick and the feed
may say what it likes. Each regime is a lemma about one tick and an induction on
the ticks in a row; what the interpreter does in other contexts never matters.
-/

namespace Vivarium

open Number

/-- The fitness values that a tick finds. -/
def PolledTick.found (tick : PolledTick) : List Float32 :=
  tick.report.fitness.map (·.score.fitness)

namespace Population

/-- Ticks once more, and notes the tick. -/
def ticked (past : List PolledTick × Population) (poll : Poll) :
    Except Fault (List PolledTick × Population) := do
  let (report, after) ← past.2.tick poll
  return (past.1 ++ [{ poll, before := past.2, report, after }], after)

/-- The ticks on some polls, one right after the other, and the population they end with. -/
def ticks (population : Population) (polls : List Poll) :
    Except Fault (List PolledTick × Population) :=
  polls.foldlM ticked ([], population)

variable {population next : Population} {poll : Poll} {report : TickReport}
  {ticks : List PolledTick}

theorem Leads.sound (h : population.Leads ticks next) (sound : population.Sound) : next.Sound := by
  induction h with
  | nil => exact sound
  | snoc _ answer ih => exact sound_of_tick ih answer

theorem Leads.config (h : population.Leads ticks next) :
    next.config = population.config ∧ next.interpret = population.interpret := by
  induction h with
  | nil => exact ⟨rfl, rfl⟩
  | snoc _ answer ih =>
      obtain ⟨hconfig, hinterpret⟩ := config_of_tick answer
      exact ⟨hconfig.trans ih.1, hinterpret.trans ih.2⟩

theorem exists_leads (sound : population.Sound) (polls : List Poll) :
    ∃ ticks last, population.ticks polls = .ok (ticks, last) ∧ ticks.map (·.poll) = polls ∧
      population.Leads ticks last := by
  induction polls using List.reverseRecOn with
  | nil => exact ⟨[], population, rfl, rfl, .nil⟩
  | append_singleton polls poll ih =>
      obtain ⟨ticks, last, hticks, hpolls, leads⟩ := ih
      obtain ⟨report, after, htick⟩ := exists_tick (leads.sound sound) poll
      have hnext : ticked (ticks, last) poll =
          .ok (ticks ++ [{ poll, before := last, report, after }], after) :=
        bind_eq_ok.mpr ⟨_, htick, rfl⟩
      refine ⟨_, after, foldlM_concat hticks hnext, ?_, .snoc leads htick⟩
      rw [List.map_append, hpolls, List.map_singleton]

/-! ## One tick in each regime -/

theorem selected_of_tick (sound : population.Sound) (live : population.cells ≠ [])
    (h : population.tick poll = .ok (report, next)) :
    ∃ culled, population.Selected poll report culled := by
  obtain ⟨founders, children, middle, stages, account, rfl, rfl⟩ := account_of_tick h
  exact ⟨stages.culling.culled, account.selected sound live rfl rfl⟩

theorem seeded_of_tick (sound : population.Sound) (empty : population.cells = [])
    (h : population.tick poll = .ok (report, next)) : population.Seeded report := by
  obtain ⟨founders, children, middle, stages, account, rfl, rfl⟩ := account_of_tick h
  exact account.seeded sound empty rfl

theorem cells_of_tick (h : population.tick poll = .ok (report, next)) :
    next.cells = report.snapshot.cells := by
  obtain ⟨stages, -, rfl, rfl⟩ := tick_eq_ok h
  rfl

theorem extinctions_of_tick (h : population.tick poll = .ok (report, next)) :
    next.extinctions = population.extinctions + if next.cells = [] then 1 else 0 := by
  obtain ⟨stages, -, rfl, rfl⟩ := tick_eq_ok h
  show population.extinctions + (if stages.cells.isEmpty = true then 1 else 0) =
    population.extinctions + if stages.cells = [] then 1 else 0
  simp only [List.isEmpty_iff]

/-- What holds of every fitness that a tick finds holds of the cells that it starts with. -/
theorem Selected.forall_freshFitness {culled : List Cell}
    (selected : population.Selected poll report culled) {p : Float32 → Prop}
    (h : ∀ record ∈ report.fitness, p record.score.fitness) :
    ∀ cell ∈ population.cells, p (population.freshFitness poll cell) := by
  intro cell hcell
  obtain ⟨record, hrecord, -, hfitness⟩ := selected.evaluated cell hcell
  rw [← hfitness]
  exact h record hrecord

/-- With nobody to die and nobody to reproduce, the cells only age, and nothing is drawn. -/
theorem unchanged_of_tick (sound : population.Sound) (live : population.cells ≠ [])
    (h : population.tick poll = .ok (report, next))
    (hdeaths : ∀ cell ∈ population.cells, population.doomed poll cell = false)
    (hbirths : ∀ cell ∈ population.cells, population.fertile poll cell = false) :
    next.cells.map Cell.birth = population.cells.map Cell.birth ∧
      next.source = population.source := by
  obtain ⟨founders, children, middle, stages, account, rfl, -⟩ := account_of_tick h
  have hsurvivors : stages.survivors = population.reviewed poll := by
    rw [account.survivors, List.filter_eq_self]
    intro cell hcell
    obtain ⟨before, hbefore, rfl⟩ := mem_reviewed.mp hcell
    rw [meets_dies, hdeaths before hbefore]
    rfl
  have hparents : stages.survivors.filter (·.meets population.config.selection .reproduces) =
      [] := by
    rw [hsurvivors, List.filter_eq_nil_iff]
    intro cell hcell
    obtain ⟨before, hbefore, rfl⟩ := mem_reviewed.mp hcell
    rw [meets_reproduces sound.valid, hbirths before hbefore]
    exact Bool.false_ne_true
  -- Neither draw is asked for anything, so both leave the source where it was.
  have hfounders := account.foundersDrawn
  rw [seeds_of_ne_nil live] at hfounders
  obtain ⟨hfounded, hmiddle⟩ := Prod.mk.inj (Except.ok.inj hfounders)
  have hchildren := account.childrenDrawn
  rw [hparents] at hchildren
  obtain ⟨hborn, hsource⟩ := Prod.mk.inj (Except.ok.inj hchildren)
  have hlineup : stages.lineup = population.reviewed poll := by
    rw [Stages.lineup, hsurvivors, account.founders_cells, account.children_cells, ← hfounded,
      ← hborn]
    simp
  have hfits : (population.reviewed poll).length ≤ population.config.population.maxSize := by
    rw [reviewed, List.length_map]
    exact sound.bounded
  refine ⟨?_, hsource.symm.trans hmiddle.symm⟩
  show stages.cells.map Cell.birth = _
  rw [Stages.cells, account.culling, hlineup, cullExcess, if_pos hfits, reviewed, List.map_map,
    List.map_map]
  exact List.map_congr_left fun cell _ => Cell.birth_aged stages.tick _

theorem tick_between (sound : population.Sound) (live : population.cells ≠ [])
    (h : population.tick poll = .ok (report, next))
    (hbetween : ∀ record ∈ report.fitness,
      population.config.selection.death ≤ record.score.fitness ∧
        record.score.fitness ≤ population.config.selection.birth) :
    report.snapshot.metrics.births = 0 ∧ report.snapshot.metrics.deaths = 0 ∧
      report.snapshot.metrics.culled = 0 ∧
      next.cells.map Cell.birth = population.cells.map Cell.birth ∧
      next.source = population.source := by
  obtain ⟨culled, selected⟩ := selected_of_tick sound live h
  have hfresh := selected.forall_freshFitness (p := fun fitness =>
    population.config.selection.death ≤ fitness ∧ fitness ≤ population.config.selection.birth)
    hbetween
  have hdeaths : ∀ cell ∈ population.cells, population.doomed poll cell = false :=
    fun cell hcell => decide_eq_false (single_not_lt_of_le (hfresh cell hcell).1)
  have hbirths : ∀ cell ∈ population.cells, population.fertile poll cell = false :=
    fun cell hcell => decide_eq_false (single_not_lt_of_le (hfresh cell hcell).2)
  have hdying : population.cells.countP (population.doomed poll) = 0 := by
    simpa using hdeaths
  have hborn : population.cells.countP (population.fertile poll) = 0 := by
    simpa using hbirths
  have hculls := selected.culls
  rw [hdying, hborn] at hculls
  have hbounded := sound.bounded
  refine ⟨selected.births.trans hborn, selected.deaths.trans hdying, ?_, ?_⟩
  · omega
  · exact unchanged_of_tick sound live h hdeaths hbirths

theorem tick_above (sound : population.Sound) (live : population.cells ≠ [])
    (h : population.tick poll = .ok (report, next))
    (habove : ∀ record ∈ report.fitness,
      population.config.selection.birth < record.score.fitness) :
    report.snapshot.metrics.deaths = 0 ∧ next.cells.length =
      min population.config.population.maxSize (population.cells.length * 2) := by
  obtain ⟨culled, selected⟩ := selected_of_tick sound live h
  have hbirths : ∀ cell ∈ population.cells, population.fertile poll cell = true :=
    fun cell hcell => decide_eq_true (selected.forall_freshFitness habove cell hcell)
  have hdying : population.cells.countP (population.doomed poll) = 0 := by
    rw [List.countP_eq_zero]
    intro cell hcell
    rw [not_doomed_of_fertile sound.valid (hbirths cell hcell)]
    exact Bool.false_ne_true
  have hborn : population.cells.countP (population.fertile poll) = population.cells.length :=
    List.countP_eq_length.mpr hbirths
  have hsize := selected.size
  rw [hdying, hborn] at hsize
  refine ⟨selected.deaths.trans hdying, ?_⟩
  rw [cells_of_tick h]
  omega

theorem tick_below (sound : population.Sound) (live : population.cells ≠ [])
    (h : population.tick poll = .ok (report, next))
    (hbelow : ∀ record ∈ report.fitness,
      record.score.fitness < population.config.selection.death) :
    next.cells = [] ∧ next.extinctions = population.extinctions + 1 := by
  obtain ⟨culled, selected⟩ := selected_of_tick sound live h
  have hfresh := selected.forall_freshFitness (p := (· < population.config.selection.death)) hbelow
  have hdeaths : ∀ cell ∈ population.cells, population.doomed poll cell = true :=
    fun cell hcell => decide_eq_true (hfresh cell hcell)
  have hdying : population.cells.countP (population.doomed poll) = population.cells.length :=
    List.countP_eq_length.mpr hdeaths
  have hborn : population.cells.countP (population.fertile poll) = 0 := by
    rw [List.countP_eq_zero]
    intro cell hcell hfertile
    have hnot := not_doomed_of_fertile sound.valid hfertile
    rw [hdeaths cell hcell] at hnot
    cases hnot
  have hsize := selected.size
  rw [hdying, hborn, ← cells_of_tick h] at hsize
  have hnone : next.cells = [] := by
    rw [← List.length_eq_zero_iff]
    omega
  refine ⟨hnone, ?_⟩
  rw [extinctions_of_tick h, if_pos hnone]

theorem tick_empty (sound : population.Sound) (empty : population.cells = [])
    (h : population.tick poll = .ok (report, next)) :
    next.cells.length = population.config.population.initialSize ∧
      next.extinctions = population.extinctions := by
  have hsize := (seeded_of_tick sound empty h).size
  rw [← cells_of_tick h] at hsize
  have hpositive := sound.valid.initial_positive
  have hsome : next.cells ≠ [] := by
    rw [← List.length_pos_iff]
    omega
  refine ⟨hsize, ?_⟩
  rw [extinctions_of_tick h, if_neg hsome, Nat.add_zero]

/-! ## Ticks in a row -/

/-- What ticks in a row come to when every fitness lies between the thresholds. -/
structure Steady (start : Population) (ticks : List PolledTick) (last : Population) : Prop where
  births : ∀ tick ∈ ticks, tick.report.snapshot.metrics.births = 0
  deaths : ∀ tick ∈ ticks, tick.report.snapshot.metrics.deaths = 0
  culled : ∀ tick ∈ ticks, tick.report.snapshot.metrics.culled = 0
  cells : ∀ tick ∈ ticks, tick.after.cells.map Cell.birth = start.cells.map Cell.birth
  source : ∀ tick ∈ ticks, tick.after.source = start.source
  last_cells : last.cells.map Cell.birth = start.cells.map Cell.birth
  last_source : last.source = start.source

/-- What ticks in a row come to when every fitness lies above the birth threshold. -/
structure Doubling (start : Population) (ticks : List PolledTick) (last : Population) : Prop where
  deaths : ∀ tick ∈ ticks, tick.report.snapshot.metrics.deaths = 0
  size : last.cells.length =
    min start.config.population.maxSize (start.cells.length * 2 ^ ticks.length)

/-- What ticks in a row from an empty population come to when every fitness lies below the death
threshold. -/
structure Alternating (start : Population) (ticks : List PolledTick) (last : Population) :
    Prop where
  sizes : ticks.map (·.after.cells.length) = (List.range ticks.length).map fun k =>
    if k % 2 = 0 then start.config.population.initialSize else 0
  extinctions : ticks.map (·.after.extinctions) = (List.range ticks.length).map fun k =>
    start.extinctions + (k + 1) / 2
  last_size : last.cells.length =
    if ticks.length % 2 = 0 then 0 else start.config.population.initialSize
  last_extinctions : last.extinctions = start.extinctions + ticks.length / 2

theorem forall_found_concat {tick : PolledTick} {p : Float32 → Prop}
    (h : ∀ other ∈ ticks ++ [tick], ∀ fitness ∈ other.found, p fitness) :
    (∀ other ∈ ticks, ∀ fitness ∈ other.found, p fitness) ∧
      ∀ record ∈ tick.report.fitness, p record.score.fitness := by
  obtain ⟨hearlier, hnow⟩ := List.forall_mem_append.mp h
  exact ⟨hearlier, fun record hrecord =>
    hnow tick List.mem_cons_self _ (List.mem_map_of_mem hrecord)⟩

theorem Leads.steady (leads : population.Leads ticks next) (sound : population.Sound)
    (live : population.cells ≠ [])
    (hbetween : ∀ tick ∈ ticks, ∀ fitness ∈ tick.found,
      population.config.selection.death ≤ fitness ∧
        fitness ≤ population.config.selection.birth) : population.Steady ticks next := by
  induction leads with
  | nil => exact ⟨by simp, by simp, by simp, by simp, by simp, rfl, rfl⟩
  | @snoc ticks tick leads answer ih =>
      have hconfig := leads.config.1
      obtain ⟨hearlier, hnow⟩ := forall_found_concat hbetween
      have steady := ih hearlier
      -- The cells are those of the start, so there are some to be judged.
      have hlive : tick.before.cells ≠ [] := by
        intro hnone
        have hcells := steady.last_cells
        rw [hnone, List.map_nil] at hcells
        exact live (List.map_eq_nil_iff.mp hcells.symm)
      rw [← hconfig] at hnow
      obtain ⟨hbirths, hdeaths, hculled, hcells, hsource⟩ :=
        tick_between (leads.sound sound) hlive answer hnow
      have hcells := hcells.trans steady.last_cells
      have hsource := hsource.trans steady.last_source
      constructor
      case last_cells => exact hcells
      case last_source => exact hsource
      all_goals rw [List.forall_mem_append, List.forall_mem_singleton]
      case births => exact ⟨steady.births, hbirths⟩
      case deaths => exact ⟨steady.deaths, hdeaths⟩
      case culled => exact ⟨steady.culled, hculled⟩
      case cells => exact ⟨steady.cells, hcells⟩
      case source => exact ⟨steady.source, hsource⟩

theorem Leads.doubling (leads : population.Leads ticks next) (sound : population.Sound)
    (live : population.cells ≠ [])
    (habove : ∀ tick ∈ ticks, ∀ fitness ∈ tick.found,
      population.config.selection.birth < fitness) : population.Doubling ticks next := by
  have hsome : 0 < population.cells.length := List.length_pos_iff.mpr live
  have hbounded := sound.bounded
  induction leads with
  | nil =>
      refine ⟨by simp, ?_⟩
      rw [List.length_nil, pow_zero]
      omega
  | @snoc ticks tick leads answer ih =>
      have hconfig := leads.config.1
      obtain ⟨hearlier, hnow⟩ := forall_found_concat habove
      have doubling := ih hearlier
      have hsize := doubling.size
      have hgrown : population.cells.length ≤ population.cells.length * 2 ^ ticks.length :=
        Nat.le_mul_of_pos_right _ (Nat.two_pow_pos _)
      -- Doubled or held at the bound, there are no fewer cells than at the start.
      have hlive : tick.before.cells ≠ [] := by
        rw [← List.length_pos_iff]
        omega
      rw [← hconfig] at hnow
      obtain ⟨hdeaths, hnext⟩ := tick_above (leads.sound sound) hlive answer hnow
      constructor
      · rw [List.forall_mem_append, List.forall_mem_singleton]
        exact ⟨doubling.deaths, hdeaths⟩
      · rw [hconfig, hsize] at hnext
        rw [hnext, List.length_append, List.length_singleton, pow_succ, ← Nat.mul_assoc]
        omega

theorem Leads.alternating (leads : population.Leads ticks next) (sound : population.Sound)
    (empty : population.cells = [])
    (hbelow : ∀ tick ∈ ticks, ∀ fitness ∈ tick.found,
      fitness < population.config.selection.death) : population.Alternating ticks next := by
  have hpositive := sound.valid.initial_positive
  induction leads with
  | nil => exact ⟨rfl, rfl, by rw [empty]; rfl, rfl⟩
  | @snoc ticks tick leads answer ih =>
      have hconfig := leads.config.1
      obtain ⟨hearlier, hnow⟩ := forall_found_concat hbelow
      have alternating := ih hearlier
      have hsize := alternating.last_size
      have hextinctions := alternating.last_extinctions
      rw [← hconfig] at hnow
      -- An even number of ticks leaves the population empty, an odd number seeded.
      have hnext : tick.after.cells.length =
            (if ticks.length % 2 = 0 then population.config.population.initialSize else 0) ∧
          tick.after.extinctions = population.extinctions + (ticks.length + 1) / 2 := by
        split
        · next heven =>
            rw [if_pos heven, List.length_eq_zero_iff] at hsize
            obtain ⟨hseeded, hsame⟩ := tick_empty (leads.sound sound) hsize answer
            rw [hconfig] at hseeded
            exact ⟨hseeded, by omega⟩
        · next hodd =>
            rw [if_neg hodd] at hsize
            have hlive : tick.before.cells ≠ [] := by
              rw [← List.length_pos_iff]
              omega
            obtain ⟨hnone, hmore⟩ := tick_below (leads.sound sound) hlive answer hnow
            exact ⟨by rw [hnone]; rfl, by omega⟩
      obtain ⟨hcells, hcount⟩ := hnext
      constructor
      all_goals rw [List.length_append, List.length_singleton]
      case sizes =>
        rw [List.map_append, alternating.sizes, List.map_singleton, hcells, List.range_succ,
          List.map_append, List.map_singleton]
      case extinctions =>
        rw [List.map_append, alternating.extinctions, List.map_singleton, hcount, List.range_succ,
          List.map_append, List.map_singleton]
      case last_size =>
        rw [hcells]
        split <;> split <;> omega
      case last_extinctions => exact hcount

theorem ticks_uniform (config : FieldConfig) (interpret : Interpreter) (source : Random.Source)
    (accepted : config.check = .ok ()) (calls : List Call) (population : Population)
    (reached : (fresh config interpret source).run calls = .ok population) (polls : List Poll) :
    ∃ ticks last, population.ticks polls = .ok (ticks, last) ∧ ticks.map (·.poll) = polls ∧
      population.Leads ticks last ∧
      (population.cells ≠ [] → (∀ tick ∈ ticks, ∀ fitness ∈ tick.found,
          config.selection.death ≤ fitness ∧ fitness ≤ config.selection.birth) →
        population.Steady ticks last) ∧
      (population.cells ≠ [] → (∀ tick ∈ ticks, ∀ fitness ∈ tick.found,
          config.selection.birth < fitness) →
        population.Doubling ticks last) ∧
      (population.cells = [] → (∀ tick ∈ ticks, ∀ fitness ∈ tick.found,
          fitness < config.selection.death) →
        population.Alternating ticks last) := by
  have sound := sound_of_run accepted reached
  have hconfig : population.config = config := config_of_run accepted reached
  obtain ⟨ticks, last, hticks, hpolls, leads⟩ := exists_leads sound polls
  rw [← hconfig]
  exact ⟨ticks, last, hticks, hpolls, leads, fun live => leads.steady sound live,
    fun live => leads.doubling sound live, fun empty => leads.alternating sound empty⟩

/-- Ticks with an interpreter that says the same of all cells find the same fitness everywhere. -/
theorem Leads.found_of_constant (leads : population.Leads ticks next) (sound : population.Sound)
    {c : Components} (hconstant : ∀ d context, population.interpret d context = c) :
    ∀ tick ∈ ticks, ∀ fitness ∈ tick.found,
      fitness = (population.config.fitness.score c).fitness := by
  induction leads with
  | nil => simp
  | @snoc ticks tick leads answer ih =>
      rw [List.forall_mem_append, List.forall_mem_singleton]
      refine ⟨ih, fun fitness hfitness => ?_⟩
      obtain ⟨record, hrecord, rfl⟩ := List.mem_map.mp hfitness
      obtain ⟨founders, children, middle, stages, account, hafter, hreport⟩ :=
        account_of_tick answer
      have hsnapshot : tick.report.snapshot = (tick.before.after stages).snapshot := by
        rw [hreport, hafter]
      have hfitness : tick.report.fitness = stages.records := by
        rw [hreport]
      have hreported := account.reported (leads.sound sound) hsnapshot hfitness
      obtain ⟨hconfig, hinterpret⟩ := leads.config
      rw [(hreported.scored record hrecord).2, hconfig, hinterpret, FitnessConfig.evaluate,
        hconstant]

/-- A revived cell between the thresholds, one above them, and founders below them. -/
theorem ticks_uniform_each :
    FieldConfig.check {} = .ok () ∧
    (∃ population : Population, (fresh {} (fun _ _ => ⟨0, 0.5, 0⟩) (.seeded 7)).run
        [.replay [.fitness ⟨3, 17, .recurrent 2 64, ⟨0.9, 0.4, 0.25, 0.25, false⟩⟩]] =
          .ok population ∧ population.cells ≠ [] ∧
      ∃ ticks last, population.ticks [.ok [], .error .closed] = .ok (ticks, last) ∧
        population.Steady ticks last) ∧
    (∃ population : Population, (fresh {} (fun _ _ => ⟨0.8, 0.5, 0⟩) (.seeded 7)).run
        [.replay [.fitness ⟨3, 17, .recurrent 2 64, ⟨0.9, 0.4, 0.25, 0.25, false⟩⟩]] =
          .ok population ∧ population.cells ≠ [] ∧
      ∃ ticks last, population.ticks [.ok [], .error .closed] = .ok (ticks, last) ∧
        population.Doubling ticks last) ∧
    ∃ ticks last, (fresh {} (fun _ _ => ⟨0, 0, 3⟩) (.seeded 7)).ticks
        [.ok [], .error .closed, .ok []] = .ok (ticks, last) ∧
      (fresh {} (fun _ _ => ⟨0, 0, 3⟩) (.seeded 7)).Alternating ticks last := by
  have accepted : FieldConfig.check {} = .ok () := by rfl
  have hrevived (c : Components) : ∃ population, (fresh {} (fun _ _ => c) (.seeded 7)).run
      [.replay [.fitness ⟨3, 17, .recurrent 2 64, ⟨0.9, 0.4, 0.25, 0.25, false⟩⟩]] =
        .ok population ∧ population.cells ≠ [] ∧ population.config = {} ∧
      ∀ d context, population.interpret d context = c :=
    ⟨_, rfl, List.cons_ne_nil _ _, rfl, fun _ _ => rfl⟩
  refine ⟨accepted, ?_, ?_, ?_⟩
  · obtain ⟨population, reached, live, hconfig, hconstant⟩ := hrevived ⟨0, 0.5, 0⟩
    obtain ⟨ticks, last, hticks, -, leads, hsteady, -⟩ :=
      ticks_uniform {} _ _ accepted _ _ reached [.ok [], .error .closed]
    have hfound := leads.found_of_constant (sound_of_run accepted reached) hconstant
    rw [hconfig] at hfound
    refine ⟨population, reached, live, ticks, last, hticks, hsteady live ?_⟩
    intro tick htick fitness hfitness
    rw [hfound tick htick fitness hfitness]
    decide +kernel
  · obtain ⟨population, reached, live, hconfig, hconstant⟩ := hrevived ⟨0.8, 0.5, 0⟩
    obtain ⟨ticks, last, hticks, -, leads, -, hdoubling, -⟩ :=
      ticks_uniform {} _ _ accepted _ _ reached [.ok [], .error .closed]
    have hfound := leads.found_of_constant (sound_of_run accepted reached) hconstant
    rw [hconfig] at hfound
    refine ⟨population, reached, live, ticks, last, hticks, hdoubling live ?_⟩
    intro tick htick fitness hfitness
    rw [hfound tick htick fitness hfitness]
    decide +kernel
  · have reached : (fresh {} (fun _ _ => ⟨0, 0, 3⟩) (.seeded 7)).run [] = .ok _ := rfl
    obtain ⟨ticks, last, hticks, -, leads, -, -, halternating⟩ :=
      ticks_uniform {} _ _ accepted _ _ reached [.ok [], .error .closed, .ok []]
    have hfound := leads.found_of_constant (sound_of_run accepted reached) fun _ _ => rfl
    refine ⟨ticks, last, hticks, halternating rfl ?_⟩
    intro tick htick fitness hfitness
    rw [hfound tick htick fitness hfitness]
    decide +kernel

end Population

end Vivarium
