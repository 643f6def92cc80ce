import Vivarium.Proofs.Population.Sound

/-!
# Runs keep populations sound

Every call of a sound population is answered, and leaves it sound. So every run
from a fresh population of a valid configuration reaches its end, and what holds
between two calls holds there. How many evaluations a cell is ahead of its age
depends on the call it goes back to: a tick evaluates what it makes at once,
while a replay leaves that to the next tick. Ids settle which call it was. An id
that has been seen lies below the next one to be given out, and a cell that
appears has one that does not.
-/

namespace Vivarium

/-- How many evaluations a cell is ahead of its age, by the call that made it. -/
def Call.lead : Call → Nat
  | .tick _ => 1
  | .replay _ => 0

/-- How a live cell after a call relates to the cells before it. -/
inductive Cell.Follows (population : Population) (call : Call) (cell : Cell) : Prop where
  | kept (before : Cell) (mem : before ∈ population.cells) (id : cell.id = before.id)
      (ahead : cell.evaluations + before.age = before.evaluations + cell.age)
  | made (id : population.nextId ≤ cell.id) (ahead : cell.evaluations = cell.age + call.lead)

/-- What every answered call of a sound population comes to. -/
structure Population.Steps (population : Population) (call : Call) (next : Population) :
    Prop where
  answer : population.call call = .ok next
  config : next.config = population.config
  sound : next.Sound
  nextId_le : population.nextId ≤ next.nextId
  follows : ∀ cell ∈ next.cells, cell.Follows population call

namespace Population

variable {population : Population}

theorem tick_steps (sound : population.Sound) (poll : Poll) :
    ∃ next, population.Steps (.tick poll) next := by
  obtain ⟨report, next, htick⟩ := exists_tick sound poll
  obtain ⟨founders, children, middle, stages, account, rfl, -⟩ := account_of_tick htick
  refine ⟨population.after stages, ?_, rfl, account.after_sound sound, ?_, fun cell hcell => ?_⟩
  · exact map_eq_ok.mpr ⟨_, htick, rfl⟩
  · show population.nextId ≤ population.nextId + _ + _
    omega
  · rcases account.mem_cells sound hcell with ⟨before, hbefore, rfl⟩ | ⟨hid, made, hmade, rfl⟩
    · refine .kept before hbefore rfl ?_
      show before.evaluations + 1 + before.age = before.evaluations + (before.age + 1)
      omega
    · refine .made hid ?_
      show made.evaluations + 1 = made.age + 1
      rw [hmade.evaluations, hmade.age]

theorem replay_steps (sound : population.Sound) (entries : List AuditEntry) :
    ∃ next, population.Steps (.replay entries) next := by
  obtain ⟨founders, count, hcount, hfounders, hnone, hreplay⟩ := replay_eq_ok sound entries
  refine ⟨_, map_eq_ok.mpr ⟨_, hreplay, rfl⟩, rfl, revivedWith_sound sound hcount hfounders hnone,
    Nat.le_add_right _ _, fun cell hcell => ?_⟩
  rcases List.mem_append.mp hcell with hold | hnew
  · exact .kept cell hold rfl rfl
  · have hid : cell.id ∈ founders.map (·.id) := List.mem_map_of_mem hnew
    rw [hfounders.ids, List.mem_range'_1] at hid
    have hfounder := hfounders.each cell hnew
    refine .made hid.1 ?_
    rw [hfounder.evaluations, hfounder.age]
    rfl

theorem exists_steps (sound : population.Sound) (call : Call) :
    ∃ next, population.Steps call next := by
  cases call with
  | tick poll => exact tick_steps sound poll
  | replay entries => exact replay_steps sound entries

/-! ## Where a cell goes back to -/

theorem run_append (population : Population) (calls : List Call) (call : Call) :
    population.run (calls ++ [call]) = population.run calls >>= (·.call call) := by
  unfold run
  rw [List.foldlM_append]
  congr 1
  funext next
  rw [List.foldlM_cons]
  cases next.call call <;> rfl

theorem hasCell_iff {id : Nat} :
    population.hasCell id = true ↔ ∃ cell ∈ population.cells, cell.id = id := by
  rw [hasCell, List.any_eq_true]
  simp only [beq_iff_eq]

theorem origin?_append {middle next : Population} {calls : List Call} {call : Call} (id : Nat)
    (hrun : population.run calls = .ok middle) (hcall : middle.call call = .ok next) :
    population.origin? id (calls ++ [call]) =
      (population.origin? id calls).or (if next.hasCell id then some call else none) := by
  induction calls generalizing population with
  | nil =>
      cases hrun
      simp only [List.nil_append, origin?, hcall, Option.none_or]
  | cons first rest ih =>
      unfold run at hrun
      rw [List.foldlM_cons] at hrun
      obtain ⟨second, hfirst, hrest⟩ := bind_eq_ok.mp hrun
      rw [List.cons_append, origin?, origin?, hfirst]
      dsimp only
      split
      · rfl
      · exact ih hrest

/-- What a run from a fresh population has come to. -/
structure Traced (start : Population) (calls : List Call) (population : Population) : Prop where
  answer : start.run calls = .ok population
  config : population.config = start.config
  sound : population.Sound
  seen : ∀ id call, start.origin? id calls = some call → id < population.nextId
  lead : ∀ cell ∈ population.cells, ∃ call, start.origin? cell.id calls = some call ∧
    cell.evaluations = cell.age + call.lead

theorem Traced.step {start next : Population} {calls : List Call} {call : Call}
    (traced : start.Traced calls population) (steps : population.Steps call next) :
    start.Traced (calls ++ [call]) next := by
  have horigin := fun id => origin?_append id traced.answer steps.answer
  constructor
  case answer =>
    rw [run_append, traced.answer]
    exact steps.answer
  case config => rw [steps.config, traced.config]
  case sound => exact steps.sound
  case seen =>
    intro id call' hid
    rw [horigin] at hid
    rcases Option.or_eq_some_iff.mp hid with hbefore | ⟨-, hnow⟩
    · exact Nat.lt_of_lt_of_le (traced.seen id call' hbefore) steps.nextId_le
    · by_cases hlives : next.hasCell id = true
      · obtain ⟨cell, hcell, rfl⟩ := hasCell_iff.mp hlives
        exact (steps.sound.each cell hcell).id_lt
      · rw [if_neg hlives] at hnow
        cases hnow
  case lead =>
    intro cell hcell
    rcases steps.follows cell hcell with ⟨before, hbefore, hid, hahead⟩ | ⟨hid, hahead⟩
    · obtain ⟨origin, hfrom, hlead⟩ := traced.lead before hbefore
      refine ⟨origin, ?_, by omega⟩
      rw [horigin, hid, hfrom]
      rfl
    · have hnone : start.origin? cell.id calls = none := by
        by_contra hsome
        obtain ⟨origin, hfrom⟩ := Option.ne_none_iff_exists'.mp hsome
        have hlt := traced.seen cell.id origin hfrom
        omega
      refine ⟨call, ?_, hahead⟩
      rw [horigin, hnone, if_pos (hasCell_iff.mpr ⟨cell, hcell, rfl⟩)]
      rfl

theorem exists_traced {start : Population} (sound : start.Sound) (empty : start.cells = [])
    (calls : List Call) : ∃ population, start.Traced calls population := by
  induction calls using List.reverseRecOn with
  | nil =>
      refine ⟨start, rfl, rfl, sound, fun id call h => ?_, fun cell hcell => ?_⟩
      · cases h
      · rw [empty] at hcell
        cases hcell
  | append_singleton calls call ih =>
      obtain ⟨population, traced⟩ := ih
      obtain ⟨next, steps⟩ := exists_steps traced.sound call
      exact ⟨next, traced.step steps⟩

section

variable {config : FieldConfig} {interpret : Interpreter} {source : Random.Source}
  {calls : List Call}

theorem traced_of_run (accepted : config.check = .ok ())
    (reached : (fresh config interpret source).run calls = .ok population) :
    (fresh config interpret source).Traced calls population := by
  have valid := FieldConfig.valid_of_check accepted
  obtain ⟨found, traced⟩ := exists_traced (fresh_sound valid interpret source) rfl calls
  have hsame : found = population := Except.ok.inj (traced.answer.symm.trans reached)
  rw [← hsame]
  exact traced

theorem sound_of_run (accepted : config.check = .ok ())
    (reached : (fresh config interpret source).run calls = .ok population) : population.Sound :=
  (traced_of_run accepted reached).sound

theorem config_of_run (accepted : config.check = .ok ())
    (reached : (fresh config interpret source).run calls = .ok population) :
    population.config = config :=
  (traced_of_run accepted reached).config

end

end Population

end Vivarium
