import Vivarium.Proofs.Population.History
import Vivarium.Proofs.Selection.Ranking

/-!
# Culling spares the proven

Cells that score the same are culled by age, the youngest first, and cells of
one age by id, the newest first. Both say the same: whoever has the larger id is
no older. Ids are given out in order, a cell that is made has age zero, and a
tick adds one to the age of everybody who was there before, so it can only
widen the gap between the old and the new. Newborns meet cells of the previous
tick that are as old as they are, since culling comes before anybody grows
older, and there the ids decide.

So of the cells with one fitness, one to the bit, those with the largest ids go. In one tick
equal descriptors score the same; the copy is culled, and not what it was copied
from.
-/

namespace Vivarium

/-- Whether no cell is older than one with a smaller id. -/
def Elders (cells : List Cell) : Prop :=
  ∀ a ∈ cells, ∀ b ∈ cells, a.id < b.id → b.age ≤ a.age

theorem Cell.before_of_elders {cells : List Cell} (elders : Elders cells) {a b : Cell}
    (ha : a ∈ cells) (hb : b ∈ cells) (fitness : a.fitness = b.fitness)
    (newer : a.id < b.id) : b.CulledBefore a := by
  have hage := elders a ha b hb newer
  rw [CulledBefore, fitness]
  omega

namespace Population

variable {population : Population} {poll : Poll}

/-- What a cell is after some ticks follows from what it was, or it is new and of age zero. -/
theorem Sound.elders (sound : population.Sound) (elders : Elders population.cells)
    {cells : List Cell} {ticks : Nat} (ages : ∀ cell ∈ cells, cell.Ages population ticks) :
    Elders cells := by
  intro a ha b hb newer
  cases ages b hb with
  | new _ hage =>
      rw [hage]
      exact Nat.zero_le _
  | old before hbefore hid hage =>
      cases ages a ha with
      | old first hfirst hid' hage' =>
          have hle := elders first hfirst before hbefore (by omega)
          omega
      | new hnew _ =>
          have hlt := (sound.each before hbefore).id_lt
          omega

theorem elders_of_run {config : FieldConfig} {interpret : Interpreter} {source : Random.Source}
    (accepted : config.check = .ok ()) {calls : List Call}
    (reached : (fresh config interpret source).run calls = .ok population) :
    Elders population.cells := by
  have valid := FieldConfig.valid_of_check accepted
  obtain ⟨turns, final, -, hrun, -, -, elders⟩ :=
    history_induction (fresh_sound valid interpret source)
      (motive := fun _ population => Elders population.cells) (fun a ha => nomatch ha)
      (fun _ population turn sound elders _ turned => sound.elders elders turned.ages) calls
  rwa [Except.ok.inj (hrun.symm.trans reached)] at elders

/-! ## The culling of a tick -/

/-- What is promised of the culling of a tick, which is offered the cells of the line. -/
structure SparesElders (stages : Stages) : Prop where
  gone : ∀ gone ∈ stages.culling.culled, ∃ cell ∈ stages.lineup, gone = cell.dead
  divided : ∀ cell ∈ stages.lineup,
    cell ∈ stages.culling.kept ↔ cell.dead ∉ stages.culling.culled
  newest : ∀ a ∈ stages.lineup, ∀ b ∈ stages.lineup, a.fitness = b.fitness →
    a.id < b.id → a.dead ∈ stages.culling.culled → b.dead ∈ stages.culling.culled
  copies : ∀ a ∈ stages.lineup, ∀ b ∈ stages.lineup, a.descriptor = b.descriptor →
    a.id < b.id → a.dead ∈ stages.culling.culled → b ∉ stages.culling.kept

namespace Account

variable {founders children : List Cell} {middle : Random.Source} {stages : Stages}

/-- Every cell of the line has the score that its descriptor has in this tick. -/
theorem fitness_lineup (sound : population.Sound)
    (account : population.Account poll founders children middle stages) {cell : Cell}
    (h : cell ∈ stages.lineup) : cell.fitness = .of (population.freshFitness poll cell) := by
  rcases account.mem_lineup sound h with ⟨before, -, rfl⟩ | ⟨-, made, -, rfl⟩
  · rfl
  · rfl

theorem kept_iff (sound : population.Sound)
    (account : population.Account poll founders children middle stages) {cell : Cell}
    (h : cell ∈ stages.lineup) :
    cell ∈ stages.culling.kept ↔ cell.dead ∉ stages.culling.culled := by
  constructor
  · intro hkept hculled
    exact account.not_kept_and_culled sound (List.mem_map_of_mem hkept) hculled
      (Cell.id_aged stages.tick cell)
  · exact fun hspared => (account.kept_or_dead h).resolve_right hspared

theorem newest_culled (sound : population.Sound) (elders : Elders population.cells)
    (account : population.Account poll founders children middle stages) {a b : Cell}
    (ha : a ∈ stages.lineup) (hb : b ∈ stages.lineup)
    (fitness : a.fitness = b.fitness) (newer : a.id < b.id)
    (culled : a.dead ∈ stages.culling.culled) : b.dead ∈ stages.culling.culled := by
  have hbefore : b.CulledBefore a :=
    Cell.before_of_elders (sound.elders elders (account.ages_lineup sound)) ha hb fitness newer
  by_contra hspared
  have hkept := (account.kept_iff sound hb).mpr hspared
  rw [account.culling] at culled hkept
  -- A mark of death does not change the rank, so what is said of `a.dead` is said of `a`.
  have hafter : a.CulledBefore b :=
    culled_before_kept (account.lineup_ascending sound).distinct _ a.dead culled b hkept
  exact hbefore.asymm hafter

theorem sparesElders (sound : population.Sound) (elders : Elders population.cells)
    (account : population.Account poll founders children middle stages) :
    SparesElders stages where
  gone _ h := account.lineup_of_culled h
  divided _ h := account.kept_iff sound h
  newest _ ha _ hb fitness newer culled :=
    account.newest_culled sound elders ha hb fitness newer culled
  copies a ha b hb copy newer culled := by
    have hfitness : a.fitness = b.fitness := by
      rw [account.fitness_lineup sound ha, account.fitness_lineup sound hb, freshFitness,
        freshFitness, copy]
    rw [account.kept_iff sound hb, not_not]
    exact account.newest_culled sound elders ha hb hfitness newer culled

end Account

theorem tick_spares_elders (config : FieldConfig) (interpret : Interpreter)
    (source : Random.Source) (accepted : config.check = .ok ()) (calls : List Call)
    (population : Population)
    (reached : (fresh config interpret source).run calls = .ok population) (poll : Poll) :
    ∃ report next stages, population.tick poll = .ok (report, next) ∧
      population.stages poll = .ok stages ∧
      next.cells = stages.culling.kept.map (Cell.aged stages.tick) ∧
      report.snapshot.metrics.culled = stages.culling.culled.length ∧
      stages.culling.culled.length =
        stages.lineup.length - population.config.population.maxSize ∧
      SparesElders stages := by
  have sound := sound_of_run accepted reached
  obtain ⟨report, next, htick⟩ := exists_tick sound poll
  obtain ⟨stages, hstages, rfl, hreport⟩ := tick_eq_ok htick
  obtain ⟨founders, children, middle, account⟩ := account_of_stages hstages
  subst hreport
  refine ⟨_, _, stages, htick, hstages, rfl, rfl, account.length_culled, ?_⟩
  exact account.sparesElders sound (elders_of_run accepted reached)

/-- A field with room for two. -/
def narrow : FieldConfig :=
  { population := { initialSize := 2, maxSize := 2 } }

/-- What a replay of two evaluations founds there. -/
def settled : Except Fault Population :=
  (fresh narrow (fun _ _ => ⟨0.8, 0.5, 0⟩) (.seeded 7)).run
    [.replay [.fitness ⟨3, 17, .recurrent 2 64, ⟨0.9, 0.4, 0.25, 0.25, false⟩⟩,
      .fitness ⟨3, 18, .recurrent 4 64, ⟨0.8, 0.4, 0.25, 0.25, false⟩⟩]]

theorem settled_fertile : ∃ population, settled = .ok population ∧
    population.config.population.maxSize = 2 ∧ population.cells.length = 2 ∧
    population.seeds = 0 ∧ population.cells.countP (population.doomed (.ok [])) = 0 ∧
    population.cells.countP (population.fertile (.ok [])) = 2 :=
  ⟨_, rfl, by rfl, by rfl, by rfl, by decide +kernel, by decide +kernel⟩

/-- A tick of two founders who both reproduce: of the four cells two have to go. -/
theorem tick_spares_elders_narrow :
    ∃ population : Population, narrow.check = .ok () ∧ settled = .ok population ∧
      ∃ (report : TickReport) (next : Population) (stages : Stages),
        population.tick (.ok []) = .ok (report, next) ∧
          stages.culling.culled.length = 2 ∧ SparesElders stages := by
  have accepted : narrow.check = .ok () := by rfl
  obtain ⟨population, reached, hmax, hcells, hseeds, hdoomed, hfertile⟩ := settled_fertile
  obtain ⟨report, next, stages, htick, hstages, -, -, hexcess, hspares⟩ :=
    tick_spares_elders narrow (fun _ _ => ⟨0.8, 0.5, 0⟩) (.seeded 7) accepted _ population reached
      (.ok [])
  refine ⟨population, accepted, reached, report, next, stages, htick, ?_, hspares⟩
  obtain ⟨founders, children, middle, account⟩ := account_of_stages hstages
  have hline := account.length_lineup (sound_of_run accepted reached)
  omega

end Population

end Vivarium
