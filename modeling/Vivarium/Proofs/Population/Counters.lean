import Vivarium.Proofs.Population.History

/-!
# What the counters count

A population counts its ticks, the ticks that left no cell alive and the ticks
in which some cell was culled, and the figures of each tick say the same of it.
An empty population is seeded in its next tick with one founder or more, and a
seeding fits, so no founder is culled: the tick that seeds leaves cells alive.
Only a replay may seed between two ticks, so after an extinction the next tick
is never one.
-/

namespace Vivarium

namespace Turn

/-- Whether the turn is a tick whose snapshot shows no cell. -/
def extinct (turn : Turn) : Bool :=
  turn.call.isTick && turn.after.snapshot.cells.isEmpty

/-- Whether the turn is a tick that culled some cell. -/
def crowded (turn : Turn) : Bool :=
  turn.call.isTick && decide (0 < turn.after.snapshot.metrics.culled)

/-- What the figures of a tick say of the populations before and after it. -/
structure Reports (turn : Turn) : Prop where
  cells : turn.after.snapshot.cells = turn.after.cells
  extinct : turn.after.snapshot.metrics.extinct = turn.after.snapshot.cells.isEmpty
  reseeded : turn.after.snapshot.metrics.reseeded = turn.before.cells.isEmpty
  notBoth : ¬ (turn.after.snapshot.metrics.reseeded = true ∧
    turn.after.snapshot.metrics.extinct = true)

/-- Whether the turn is a replay that seeded no cell. -/
structure Idle (turn : Turn) : Prop where
  replay : turn.call.isTick = false
  made : turn.made = []

end Turn

/-- What the counters of a population say of its history. -/
structure Tallies (turns : List Turn) (population : Population) : Prop where
  generation : population.generation = turns.countP (·.call.isTick)
  extinctions : population.extinctions = turns.countP Turn.extinct
  capacityEvents : population.capacityEvents = turns.countP Turn.crowded
  published : population.snapshot.generation = population.generation ∧
    population.snapshot.extinctions = population.extinctions ∧
    population.snapshot.capacityEvents = population.capacityEvents

namespace Population

variable {population : Population} {turns : List Turn} {turn : Turn}

/-! ## A turn -/

/-- What a turn adds to the counters, and what it publishes. -/
structure Counts (population : Population) (turn : Turn) : Prop where
  extinctions : turn.after.extinctions =
    population.extinctions + if turn.extinct then 1 else 0
  capacityEvents : turn.after.capacityEvents =
    population.capacityEvents + if turn.crowded then 1 else 0
  published : turn.after.snapshot.extinctions = turn.after.extinctions ∧
      turn.after.snapshot.capacityEvents = turn.after.capacityEvents ∨
    turn.after.snapshot = population.snapshot ∧
      turn.after.extinctions = population.extinctions ∧
      turn.after.capacityEvents = population.capacityEvents

theorem counts_of_turn (sound : population.Sound) (answer : population.turn turn.call = .ok turn) :
    population.Counts turn := by
  cases hcall : turn.call with
  | tick poll =>
      rw [hcall] at answer
      obtain ⟨-, -, -, stages, -, rfl⟩ := account_of_turn answer
      refine ⟨?_, ?_, .inl ⟨rfl, rfl⟩⟩
      · rfl
      · show population.capacityEvents + (if stages.culling.culled.isEmpty then 0 else 1) =
          population.capacityEvents +
            if (true && decide (0 < stages.culling.culled.length)) then 1 else 0
        cases stages.culling.culled <;> rfl
  | replay entries =>
      rw [hcall] at answer
      obtain ⟨founders, -, -, -, -, hreplay⟩ := replay_eq_ok sound entries
      cases Except.ok.inj (answer.symm.trans (turn_replay hreplay))
      exact ⟨rfl, rfl, .inr ⟨rfl, rfl, rfl⟩⟩

theorem reports_of_turn (sound : population.Sound) (answer : population.turn turn.call = .ok turn)
    (isTick : turn.call.isTick = true) : turn.Reports := by
  cases hcall : turn.call with
  | tick poll =>
      rw [hcall] at answer
      obtain ⟨founders, children, middle, stages, account, rfl⟩ := account_of_turn answer
      have hreseeded : stages.metrics.reseeded = population.cells.isEmpty := by
        rw [Stages.metrics, account.established, Evaluation.cells_of, List.isEmpty_map]
      refine ⟨rfl, rfl, hreseeded, ?_⟩
      rintro ⟨hseeding, hextinct⟩
      have hempty : population.cells = [] := List.isEmpty_iff.mp (hreseeded.symm.trans hseeding)
      have hnone : stages.cells = [] := List.isEmpty_iff.mp hextinct
      let report : TickReport := ⟨(population.after stages).snapshot, [], [], []⟩
      have hseeded : population.Seeded report := account.seeded sound hempty rfl
      have hsize : stages.cells.length = _ := hseeded.size
      have hpositive := sound.valid.initial_positive
      rw [← hsize, hnone] at hpositive
      exact Nat.lt_irrefl 0 hpositive
  | replay entries =>
      rw [hcall] at isTick
      cases isTick

/-! ## A run -/

theorem tallies_step (tallies : Tallies turns population) (counts : population.Counts turn)
    (turned : population.Turned turn) : Tallies (turns ++ [turn]) turn.after where
  generation := by
    rw [turned.generation, tallies.generation, List.countP_append, List.countP_singleton,
      Turn.ticks]
  extinctions := by
    rw [counts.extinctions, tallies.extinctions, List.countP_append, List.countP_singleton]
  capacityEvents := by
    rw [counts.capacityEvents, tallies.capacityEvents, List.countP_append, List.countP_singleton]
  published := by
    refine ⟨turned.sound.snapshot_generation, ?_⟩
    rcases counts.published with hpublished | ⟨hsnapshot, hextinctions, hevents⟩
    · exact hpublished
    · rw [hsnapshot, hextinctions, hevents]
      exact tallies.published.2

theorem cells_of_idle (turned : turn.before.Turned turn) (idle : turn.Idle)
    (empty : turn.before.cells = []) : turn.after.cells = [] := by
  have hbalance := turned.balance
  rw [turned.leavesInTick idle.replay, idle.made, empty] at hbalance
  simpa using hbalance

/-- Idle replays leave an empty population empty, however many there are. -/
theorem cells_of_idle_between {first last : Turn} {between : List Turn}
    (turned : ∀ turn ∈ between, turn.before.Turned turn) (idle : ∀ turn ∈ between, turn.Idle)
    (linked : (first :: between ++ [last]).IsChain fun earlier later => earlier.after = later.before)
    (empty : first.after.cells = []) : last.before.cells = [] := by
  induction between generalizing first with
  | nil =>
      rw [← (List.isChain_cons_cons.mp linked).1]
      exact empty
  | cons next rest ih =>
      obtain ⟨hlink, hrest⟩ := List.isChain_cons_cons.mp linked
      rw [hlink] at empty
      refine ih (fun turn hturn => turned turn (List.mem_cons_of_mem _ hturn))
        (fun turn hturn => idle turn (List.mem_cons_of_mem _ hturn)) hrest ?_
      exact cells_of_idle (turned next List.mem_cons_self) (idle next List.mem_cons_self) empty

theorem not_extinct_twice (told : Told turns population) {earlier between later : List Turn}
    {first last : Turn} (split : turns = earlier ++ first :: between ++ last :: later)
    (isTick : last.call.isTick = true) (idle : ∀ turn ∈ between, turn.Idle)
    (extinct : first.extinct = true) : last.extinct = false := by
  subst split
  have hfirst := told.each first (by simp)
  have hlast := told.each last (by simp)
  obtain ⟨hticks, hnone⟩ := Bool.and_eq_true_iff.mp extinct
  have hempty : first.after.cells = [] := by
    rw [← (reports_of_turn hfirst.1 hfirst.2.1 hticks).cells]
    exact List.isEmpty_iff.mp hnone
  have hlinked : (first :: between ++ [last]).IsChain
      fun earlier later => earlier.after = later.before := by
    have hinfix : first :: between ++ [last] <:+: earlier ++ first :: between ++ last :: later :=
      ⟨earlier, later, by simp⟩
    exact told.linked.infix hinfix
  have hbefore : last.before.cells = [] :=
    cells_of_idle_between (fun turn hturn => (told.each turn (by simp [hturn])).2.2) idle hlinked
      hempty
  -- The later tick finds no cell, so it seeds, and what it seeds stays.
  have hreports := reports_of_turn hlast.1 hlast.2.1 isTick
  have hnot := hreports.notBoth
  rw [hreports.reseeded, hbefore, hreports.extinct] at hnot
  rw [Turn.extinct, isTick, Bool.true_and, ← Bool.not_eq_true]
  exact fun hextinct => hnot ⟨rfl, hextinct⟩

theorem run_tallied (config : FieldConfig) (interpret : Interpreter) (source : Random.Source)
    (accepted : config.check = .ok ()) (calls : List Call) :
    ∃ turns population, (fresh config interpret source).history calls = .ok (turns, population) ∧
      (fresh config interpret source).run calls = .ok population ∧
      turns.map Turn.call = calls ∧ Tallies turns population ∧
      (∀ turn ∈ turns, turn.call.isTick = true → turn.Reports) ∧
      ∀ earlier first between last later, turns = earlier ++ first :: between ++ last :: later →
        first.call.isTick = true → last.call.isTick = true → (∀ turn ∈ between, turn.Idle) →
          ¬ (first.extinct = true ∧ last.extinct = true) := by
  have valid := FieldConfig.valid_of_check accepted
  obtain ⟨turns, population, hhistory, hrun, hcalls, -, told, htallies⟩ :=
    history_induction (fresh_sound valid interpret source)
      (motive := fun turns population => Told turns population ∧ Tallies turns population)
      ⟨Told.start, rfl, rfl, rfl, rfl, rfl, rfl⟩
      (fun _ _ _ sound past answer turned => ⟨past.1.step sound answer turned,
        tallies_step past.2 (counts_of_turn sound answer) turned⟩) calls
  refine ⟨turns, population, hhistory, hrun, hcalls, htallies, fun turn hturn hticks => ?_, ?_⟩
  · obtain ⟨hsound, hanswer, -⟩ := told.each turn hturn
    exact reports_of_turn hsound hanswer hticks
  · rintro earlier first between last later hsplit - hticks hidle ⟨hfirst, hlast⟩
    rw [not_extinct_twice told hsplit hticks hidle hfirst] at hlast
    cases hlast

/-- A cell that a replay revived dies in the next tick, and with it the population. -/
theorem run_tallied_died_out :
    ∃ turns population, FieldConfig.check {} = .ok () ∧
      (fresh {} (fun _ _ => ⟨-1, 0, 1⟩) (.seeded 7)).history
        [.replay [.fitness ⟨3, 17, .recurrent 2 64, ⟨0.9, 0.4, 0.25, 0.25, false⟩⟩],
          .tick (.ok []), .replay []] = .ok (turns, population) ∧
      turns.map Turn.extinct = [false, true, false] ∧ Tallies turns population := by
  have accepted : FieldConfig.check {} = .ok () := by rfl
  obtain ⟨turns, population, hhistory, -, -, htallies, -⟩ :=
    run_tallied {} (fun _ _ => ⟨-1, 0, 1⟩) (.seeded 7) accepted
      [.replay [.fitness ⟨3, 17, .recurrent 2 64, ⟨0.9, 0.4, 0.25, 0.25, false⟩⟩],
        .tick (.ok []), .replay []]
  have hextinct : ((fresh {} (fun _ _ => ⟨-1, 0, 1⟩) (.seeded 7)).history
      [.replay [.fitness ⟨3, 17, .recurrent 2 64, ⟨0.9, 0.4, 0.25, 0.25, false⟩⟩],
        .tick (.ok []), .replay []]).toOption.map (·.1.map Turn.extinct) =
      some [false, true, false] := by
    decide +kernel
  rw [hhistory] at hextinct
  exact ⟨turns, population, accepted, hhistory, Option.some.inj hextinct, htallies⟩

end Population

end Vivarium
