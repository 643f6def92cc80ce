import Vivarium.Proofs.Population.Run

/-!
# The population invariant

Whatever the feed gives, whatever is replayed and whatever words the source has
to offer, a population of a valid configuration answers every call. The cells
that live then are no more than allowed, stand by their ids, are alive and in
bounds, and their ages and evaluations tell when and by which call they were
made. Right after a tick the snapshot shows exactly these cells.
-/

namespace Vivarium

/-- Whether a snapshot is what a tick leaves of a population of a given size at most. -/
structure Snapshot.Whole (maxSize : Nat) (snapshot : Snapshot) : Prop where
  population : snapshot.cells.length = snapshot.metrics.population
  bounded : snapshot.metrics.population ≤ maxSize
  tick : snapshot.generation = snapshot.metrics.tick

namespace Population

/-- What is promised of a population that some calls have led to. -/
structure Invariant (start : Population) (calls : List Call) (population : Population) :
    Prop where
  bounded : population.cells.length ≤ start.config.population.maxSize
  ascending : population.cells.Pairwise fun a b => a.id < b.id
  id_lt : ∀ cell ∈ population.cells, cell.id < population.nextId
  alive : ∀ cell ∈ population.cells, cell.alive = true
  inBounds : ∀ cell ∈ population.cells,
    start.config.bounds.contains cell.descriptor = .ok true
  age : ∀ cell ∈ population.cells, cell.bornTick + cell.age = population.generation
  evaluations : ∀ cell ∈ population.cells,
    (∃ poll, start.origin? cell.id calls = some (.tick poll) ∧
        cell.evaluations = cell.age + 1) ∨
      ∃ entries, start.origin? cell.id calls = some (.replay entries) ∧
        cell.evaluations = cell.age
  published : ∀ earlier poll, calls = earlier ++ [.tick poll] →
    population.snapshot.cells = population.cells ∧
      population.snapshot.generation = population.generation ∧
      population.snapshot.metrics.tick = population.generation

theorem published_of_tick {population next : Population} {poll : Poll}
    (h : population.call (.tick poll) = .ok next) :
    next.snapshot.cells = next.cells ∧ next.snapshot.generation = next.generation ∧
      next.snapshot.metrics.tick = next.generation := by
  obtain ⟨⟨report, after⟩, htick, rfl⟩ := map_eq_ok.mp h
  obtain ⟨stages, -, rfl, -⟩ := tick_eq_ok htick
  exact ⟨rfl, rfl, rfl⟩

theorem Traced.invariant {start population : Population} {calls : List Call}
    (traced : start.Traced calls population) : Invariant start calls population := by
  have each := traced.sound.each
  constructor
  case bounded =>
    rw [← traced.config]
    exact traced.sound.bounded
  case ascending => exact traced.sound.ascending
  case id_lt => exact fun cell hcell => (each cell hcell).id_lt
  case alive => exact fun cell hcell => (each cell hcell).alive
  case inBounds =>
    intro cell hcell
    rw [← traced.config]
    exact (each cell hcell).inBounds
  case age => exact fun cell hcell => (each cell hcell).age_eq
  case evaluations =>
    intro cell hcell
    obtain ⟨call, horigin, hlead⟩ := traced.lead cell hcell
    cases call with
    | tick poll => exact .inl ⟨poll, horigin, hlead⟩
    | replay entries => exact .inr ⟨entries, horigin, hlead⟩
  case published =>
    rintro earlier poll rfl
    have hrun := traced.answer
    rw [run_append] at hrun
    obtain ⟨middle, -, hcall⟩ := bind_eq_ok.mp hrun
    exact published_of_tick hcall

theorem run_invariant (config : FieldConfig) (interpret : Interpreter) (source : Random.Source)
    (accepted : config.check = .ok ()) (calls : List Call) :
    ∃ population, (fresh config interpret source).run calls = .ok population ∧
      Invariant (fresh config interpret source) calls population := by
  have valid := FieldConfig.valid_of_check accepted
  obtain ⟨population, traced⟩ := exists_traced (fresh_sound valid interpret source) rfl calls
  exact ⟨population, traced.answer, traced.invariant⟩

/-- A run of the standard configuration: a tick, a replay of nothing, and a tick without a feed. -/
theorem run_invariant_standard :
    FieldConfig.check {} = .ok () ∧
      ∃ population,
        (fresh {} (fun _ _ => ⟨0.8, 0.5, 0⟩) (.seeded 7)).run
          [.tick (.ok []), .replay [], .tick (.error .closed)] = .ok population ∧
        Invariant (fresh {} (fun _ _ => ⟨0.8, 0.5, 0⟩) (.seeded 7))
          [.tick (.ok []), .replay [], .tick (.error .closed)] population := by
  have accepted : FieldConfig.check {} = .ok () := by rfl
  exact ⟨accepted, run_invariant {} _ _ accepted _⟩

/-! ## Published snapshots -/

variable {population next : Population} {poll : Poll} {report : TickReport}

theorem whole_of_tick (h : population.tick poll = .ok (report, next)) :
    report.snapshot.Whole population.config.population.maxSize ∧ next.snapshot = report.snapshot := by
  obtain ⟨founders, children, middle, stages, account, rfl, rfl⟩ := account_of_tick h
  refine ⟨⟨rfl, ?_, rfl⟩, rfl⟩
  show stages.cells.length ≤ _
  rw [account.length_cells]
  exact Nat.min_le_right _ _

theorem whole_of_call (sound : population.Sound) {call : Call}
    (answer : population.call call = .ok next)
    (whole : population.snapshot.Whole population.config.population.maxSize) :
    next.snapshot.Whole population.config.population.maxSize := by
  cases call with
  | tick poll =>
      obtain ⟨⟨report, after⟩, htick, rfl⟩ := map_eq_ok.mp answer
      obtain ⟨hreport, hsnapshot⟩ := whole_of_tick htick
      rw [hsnapshot]
      exact hreport
  | replay entries =>
      obtain ⟨result, hresult, rfl⟩ := map_eq_ok.mp answer
      obtain ⟨founders, count, -, -, -, hreplay⟩ := replay_eq_ok sound entries
      cases Except.ok.inj (hreplay.symm.trans hresult)
      exact whole

/-- The snapshot of a population that some calls have led to is that of a tick, or empty. -/
theorem whole_of_run {config : FieldConfig} {interpret : Interpreter} {source : Random.Source}
    (accepted : config.check = .ok ()) {calls : List Call}
    (reached : (fresh config interpret source).run calls = .ok population) :
    population.snapshot.Whole config.population.maxSize := by
  induction calls using List.reverseRecOn generalizing population with
  | nil =>
      cases reached
      exact ⟨rfl, Nat.zero_le _, rfl⟩
  | append_singleton calls call ih =>
      rw [run_append] at reached
      obtain ⟨middle, hmiddle, hcall⟩ := bind_eq_ok.mp reached
      have whole := ih hmiddle
      rw [← config_of_run accepted hmiddle] at whole ⊢
      exact whole_of_call (sound_of_run accepted hmiddle) hcall whole

end Population

end Vivarium
