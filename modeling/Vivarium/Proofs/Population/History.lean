import Vivarium.Population.History
import Vivarium.Proofs.Lineage.Replay
import Vivarium.Proofs.Population.Reproduction

/-!
# What a turn does to the cells

Nothing happens to the birth of a cell after its birth. So the books of a turn
balance on births: who is there afterwards and who has left are together who was
there before and who was made. A tick gets this from two rearrangements, one for
selection and one for culling, and a replay from nothing but its founders. A run
is a sequence of such turns, each of a sound population, and what one turn keeps
the whole run keeps.
-/

namespace Vivarium

/-- What a cell is born with, and never loses. -/
def Cell.birth (cell : Cell) : Nat × Descriptor × Option Nat × Nat × Nat :=
  (cell.id, cell.descriptor, cell.parent, cell.lineageDepth, cell.bornTick)

/-- Whether a cell was there before a turn, and how many ticks it is older, or is new. -/
inductive Cell.Ages (population : Population) (ticks : Nat) (cell : Cell) : Prop where
  | old (before : Cell) (mem : before ∈ population.cells) (id : cell.id = before.id)
      (age : cell.age = before.age + ticks)
  | new (id : population.nextId ≤ cell.id) (age : cell.age = 0)

/-- Whether a cell is a child of a live cell that did not die in the turn. -/
structure Cell.Issue (turn : Turn) (parent cell : Cell) : Prop where
  isTick : turn.call.isTick = true
  mem : parent ∈ turn.before.cells
  parent_eq : cell.parent = some parent.id
  lineageDepth : cell.lineageDepth = parent.lineageDepth + 1
  survived : ∀ dead ∈ turn.died, dead.id ≠ parent.id

/-- The ticks that a turn takes. -/
def Turn.ticks (turn : Turn) : Nat :=
  if turn.call.isTick then 1 else 0

/-- What the memory comes to: a tick offers it who left, and a replay the records of the past. -/
def Turn.remembered (turn : Turn) : Memory :=
  match turn.call with
  | .tick _ => (turn.before.memory.observeAll turn.left).2
  | .replay entries =>
      (turn.before.memory.restoreAll (entries.filterMap AuditEntry.lineage?)).2

/-- Everything that a turn of a sound population does to its cells. -/
structure Population.Turned (population : Population) (turn : Turn) : Prop where
  answer : population.call turn.call = .ok turn.after
  before : turn.before = population
  config : turn.after.config = population.config
  sound : turn.after.Sound
  generation : turn.after.generation = population.generation + turn.ticks
  nextId : turn.after.nextId = population.nextId + turn.made.length
  ids : turn.made.map Cell.id = List.range' population.nextId turn.made.length
  balance : ((turn.after.cells ++ turn.left).map Cell.birth).Perm
    ((population.cells ++ turn.made).map Cell.birth)
  ages : ∀ cell ∈ turn.after.cells, cell.Ages population turn.ticks
  agesLeft : ∀ cell ∈ turn.left, cell.Ages population 0
  leavesInTick : turn.call.isTick = false → turn.left = []
  memory : turn.after.memory = turn.remembered
  bornTick : ∀ cell ∈ turn.made, cell.bornTick = turn.after.generation
  parents : ∀ cell ∈ turn.made, cell.parent = none ∧ cell.lineageDepth = 0 ∨
    ∃ parent, Cell.Issue turn parent cell

namespace Cell

theorem birth_aged (tick : Nat) (cell : Cell) : (cell.aged tick).birth = cell.birth := by
  unfold aged
  split <;> rfl

end Cell

namespace Population

variable {population : Population} {poll : Poll}

/-! ## A tick -/

namespace Account

variable {founders children : List Cell} {middle : Random.Source} {stages : Stages}

/-- Culling only divides the cells that it is offered. -/
theorem perm_culling (account : population.Account poll founders children middle stages) :
    ((stages.cells ++ stages.culling.culled).map Cell.birth).Perm
      (stages.lineup.map Cell.birth) := by
  obtain ⟨chosen, hculled, hperm⟩ := account.divides
  have hcells : stages.cells.map Cell.birth = stages.culling.kept.map Cell.birth := by
    rw [Stages.cells, List.map_map]
    exact List.map_congr_left fun cell _ => Cell.birth_aged stages.tick cell
  have hchosen : stages.culling.culled.map Cell.birth = chosen.map Cell.birth := by
    rw [hculled, List.map_map]
    rfl
  rw [List.map_append, hcells, hchosen, ← List.map_append]
  exact hperm.map Cell.birth

/-- Selection only divides the cells that were there. -/
theorem perm_selection (account : population.Account poll founders children middle stages) :
    ((stages.dying ++ stages.survivors).map Cell.birth).Perm
      (population.cells.map Cell.birth) := by
  have hreviewed : (population.reviewed poll).map Cell.birth = population.cells.map Cell.birth := by
    rw [reviewed, List.map_map]
    rfl
  have hdying : stages.dying.map Cell.birth = ((population.reviewed poll).filter
      (·.meets population.config.selection .dies)).map Cell.birth := by
    rw [account.dying, List.map_map]
    rfl
  rw [List.map_append, hdying, account.survivors, ← hreviewed, ← List.map_append]
  exact (List.filter_append_perm _ _).map Cell.birth

theorem balance (account : population.Account poll founders children middle stages) :
    ((stages.cells ++ (stages.dying ++ stages.culling.culled)).map Cell.birth).Perm
      ((population.cells ++ (stages.founders.cells ++ stages.children.cells)).map Cell.birth) := by
  have hculling := account.perm_culling
  have hselection := account.perm_selection
  rw [Stages.lineup] at hculling
  simp only [List.map_append, List.append_assoc] at hculling hselection ⊢
  have hmoved := List.perm_append_comm_assoc (stages.cells.map Cell.birth)
    (stages.dying.map Cell.birth) (stages.culling.culled.map Cell.birth)
  refine hmoved.trans ((hculling.append_left _).trans ?_)
  rw [← List.append_assoc]
  exact hselection.append_right _

theorem ages_cells (sound : population.Sound)
    (account : population.Account poll founders children middle stages) :
    ∀ cell ∈ stages.cells, cell.Ages population 1 := by
  intro cell hcell
  rcases account.mem_cells sound hcell with ⟨before, hbefore, rfl⟩ | ⟨hid, made, hmade, rfl⟩
  · exact .old before hbefore rfl rfl
  · exact .new hid hmade.age

theorem ages_lineup (sound : population.Sound)
    (account : population.Account poll founders children middle stages) :
    ∀ cell ∈ stages.lineup, cell.Ages population 0 := by
  intro cell hcell
  rcases account.mem_lineup sound hcell with ⟨before, hbefore, rfl⟩ | ⟨hid, made, hmade, rfl⟩
  · exact .old before hbefore rfl rfl
  · exact .new hid hmade.age

theorem ages_left (sound : population.Sound)
    (account : population.Account poll founders children middle stages) :
    ∀ cell ∈ stages.dying ++ stages.culling.culled, cell.Ages population 0 := by
  intro cell hcell
  rcases List.mem_append.mp hcell with hdying | hculled
  · rw [account.dying] at hdying
    obtain ⟨reviewed, hreviewed, rfl⟩ := List.mem_map.mp hdying
    obtain ⟨before, hbefore, rfl⟩ := mem_reviewed.mp (List.mem_of_mem_filter hreviewed)
    exact .old before hbefore rfl rfl
  · obtain ⟨chosen, hchosen, rfl⟩ := account.lineup_of_culled hculled
    -- Leaving takes neither the id nor the age of a cell.
    cases account.ages_lineup sound chosen hchosen with
    | old before hbefore hid hage => exact .old before hbefore hid hage
    | new hid hage => exact .new hid hage

theorem ids_made (sound : population.Sound)
    (account : population.Account poll founders children middle stages) :
    (stages.founders.cells ++ stages.children.cells).map Cell.id =
      List.range' population.nextId (stages.founders.cells ++ stages.children.cells).length := by
  have hlineup := account.lineup_ids sound
  rw [Stages.lineup, List.append_assoc, List.map_append, List.append_cancel_left_eq] at hlineup
  rw [hlineup, List.length_append, account.founders_cells, account.children_cells, List.length_map,
    List.length_map]

theorem issue (sound : population.Sound)
    (account : population.Account poll founders children middle stages) {turn : Turn}
    (hcall : turn.call = .tick poll) (hbefore : turn.before = population)
    (hdied : turn.died = stages.dying) {child : Cell} (h : child ∈ stages.children.cells) :
    ∃ parent, Cell.Issue turn parent child := by
  obtain ⟨i, hi, rfl⟩ := List.getElem_of_mem h
  have hborn := account.bornOf sound
  have hparent : i < (population.cells.filter (population.fertile poll)).length := by
    rwa [hborn.length_eq]
  have hmem := List.getElem_mem hparent
  have hrel := hborn.get hparent hi
  simp only [List.get_eq_getElem] at hrel
  obtain ⟨hcells, hfertile⟩ := List.mem_filter.mp hmem
  refine ⟨_, by rw [hcall]; rfl, by rw [hbefore]; exact hcells, hrel.parent_eq, hrel.lineageDepth,
    fun dead hdead heq => ?_⟩
  -- Whoever died had a fitness below the one threshold, and a parent has one above the other.
  rw [hdied, account.dying] at hdead
  obtain ⟨judged, hjudged, rfl⟩ := List.mem_map.mp hdead
  obtain ⟨hreviewed, hdies⟩ := List.mem_filter.mp hjudged
  obtain ⟨before, hmember, rfl⟩ := mem_reviewed.mp hreviewed
  rw [meets_dies] at hdies
  rw [sound.ascending.eq_of_id_eq hmember hcells heq,
    not_doomed_of_fertile sound.valid hfertile] at hdies
  cases hdies

end Account

theorem account_of_turn {turn : Turn} (h : population.turn (.tick poll) = .ok turn) :
    ∃ founders children middle stages,
      population.Account poll founders children middle stages ∧ turn = {
        call := .tick poll
        before := population
        after := population.after stages
        made := stages.founders.cells ++ stages.children.cells
        died := stages.dying
        culled := stages.culling.culled } := by
  obtain ⟨stages, hstages, hturn⟩ := bind_eq_ok.mp h
  obtain ⟨founders, children, middle, account⟩ := account_of_stages hstages
  cases hturn
  exact ⟨founders, children, middle, stages, account, rfl⟩

theorem turned_tick (sound : population.Sound) (poll : Poll) :
    ∃ turn, population.turn (.tick poll) = .ok turn ∧ turn.call = .tick poll ∧
      population.Turned turn := by
  obtain ⟨stages, hstages⟩ := exists_stages sound.valid sound.holds poll
  obtain ⟨founders, children, middle, account⟩ := account_of_stages hstages
  refine ⟨_, bind_eq_ok.mpr ⟨stages, hstages, rfl⟩, rfl, ?_⟩
  constructor
  case answer => exact map_eq_ok.mpr ⟨_, bind_eq_ok.mpr ⟨stages, hstages, rfl⟩, rfl⟩
  case before | config => rfl
  case sound => exact account.after_sound sound
  case generation => exact account.tick
  -- Ids are given to founders and children alike, one after another.
  case nextId =>
    show population.nextId + _ + _ = _
    rw [List.length_append, Nat.add_assoc]
  case ids => exact account.ids_made sound
  case balance => exact account.balance
  case ages => exact account.ages_cells sound
  case agesLeft => exact account.ages_left sound
  case leavesInTick =>
    intro hreplay
    cases hreplay
  case memory =>
    show stages.afterCulls.2 =
      (population.memory.observeAll (stages.dying ++ stages.culling.culled)).2
    rw [Memory.observeAll_append, account.afterCulls, account.afterDeaths]
  case bornTick =>
    intro cell hcell
    show cell.bornTick = stages.tick
    rw [account.tick]
    rcases List.mem_append.mp hcell with hfounder | hchild
    · exact (account.mem_founders sound hfounder).2.1
    · exact (account.mem_children sound hchild).2.1
  case parents =>
    intro cell hcell
    rcases List.mem_append.mp hcell with hfounder | hchild
    · exact .inl (account.mem_founders sound hfounder).2.2
    · exact .inr (account.issue sound rfl rfl rfl hchild)

/-! ## A replay -/

theorem turn_replay {entries : List AuditEntry} {replayed : Replayed} {memory : Memory}
    {founders : List Cell}
    (h : population.replay entries = .ok (replayed, population.revivedWith memory founders)) :
    population.turn (.replay entries) = .ok {
      call := .replay entries
      before := population
      after := population.revivedWith memory founders
      made := founders
      died := []
      culled := [] } := by
  have hmade : (population.cells ++ founders).drop population.cells.length = founders :=
    List.drop_left
  refine bind_eq_ok.mpr ⟨_, h, ?_⟩
  show Except.ok _ = _
  rw [revivedWith, hmade]

theorem turned_replay (sound : population.Sound) (entries : List AuditEntry) :
    ∃ turn, population.turn (.replay entries) = .ok turn ∧ turn.call = .replay entries ∧
      population.Turned turn := by
  obtain ⟨founders, count, hcount, hfounders, hnone, hreplay⟩ := replay_eq_ok sound entries
  have hlength := hfounders.length_eq
  refine ⟨_, turn_replay hreplay, rfl, ?_⟩
  constructor
  case answer => exact map_eq_ok.mpr ⟨_, hreplay, rfl⟩
  case sound => exact revivedWith_sound sound hcount hfounders hnone
  case ids =>
    rw [hlength]
    exact hfounders.ids
  case balance =>
    rw [Turn.left, List.append_nil, List.append_nil]
    exact List.Perm.refl _
  case ages =>
    intro cell hcell
    rcases List.mem_append.mp hcell with hold | hnew
    · exact .old cell hold rfl rfl
    · have hid : cell.id ∈ founders.map (·.id) := List.mem_map_of_mem hnew
      rw [hfounders.ids, List.mem_range'_1] at hid
      exact .new hid.1 (hfounders.each cell hnew).age
  case agesLeft =>
    intro cell hcell
    cases hcell
  case leavesInTick =>
    intro
    rfl
  case bornTick => exact fun cell hcell => (hfounders.each cell hcell).bornTick
  case parents =>
    exact fun cell hcell =>
      .inl ⟨(hfounders.each cell hcell).parent, (hfounders.each cell hcell).lineageDepth⟩
  -- A replay touches nothing else.
  case before | config | generation | nextId | memory => rfl

theorem exists_turned (sound : population.Sound) (call : Call) :
    ∃ turn, population.turn call = .ok turn ∧ turn.call = call ∧ population.Turned turn := by
  cases call with
  | tick poll => exact turned_tick sound poll
  | replay entries => exact turned_replay sound entries

/-! ## A run -/

theorem history_append {past : List Turn} {calls : List Call} {start : Population} {call : Call}
    {turn : Turn} (hpast : start.history calls = .ok (past, population))
    (hturn : population.turn call = .ok turn) :
    start.history (calls ++ [call]) = .ok (past ++ [turn], turn.after) := by
  have hextend : extend (past, population) call = .ok (past ++ [turn], turn.after) :=
    bind_eq_ok.mpr ⟨turn, hturn, rfl⟩
  exact foldlM_concat hpast hextend

/-- What holds at first and is kept by every turn of a sound population holds of every history. -/
theorem history_induction {start : Population} (sound : start.Sound)
    {motive : List Turn → Population → Prop} (nil : motive [] start)
    (snoc : ∀ turns population turn, population.Sound → motive turns population →
      population.turn turn.call = .ok turn → population.Turned turn →
      motive (turns ++ [turn]) turn.after) (calls : List Call) :
    ∃ turns population, start.history calls = .ok (turns, population) ∧
      start.run calls = .ok population ∧ turns.map Turn.call = calls ∧ population.Sound ∧
      motive turns population := by
  induction calls using List.reverseRecOn with
  | nil => exact ⟨[], start, rfl, rfl, rfl, sound, nil⟩
  | append_singleton calls call ih =>
      obtain ⟨turns, population, hhistory, hrun, hcalls, hsound, hmotive⟩ := ih
      obtain ⟨turn, hturn, rfl, turned⟩ := exists_turned hsound call
      refine ⟨turns ++ [turn], turn.after, history_append hhistory hturn, ?_, ?_, turned.sound,
        snoc turns population turn hsound hmotive hturn turned⟩
      · rw [run_append, hrun]
        exact turned.answer
      · rw [List.map_append, hcalls]
        rfl

/-- What the turns of a history are, each by itself and one after another. -/
structure Told (turns : List Turn) (population : Population) : Prop where
  each : ∀ turn ∈ turns, turn.before.Sound ∧ turn.before.turn turn.call = .ok turn ∧
    turn.before.Turned turn
  linked : turns.IsChain fun earlier later => earlier.after = later.before
  last : ∀ turn ∈ turns.getLast?, turn.after = population

theorem Told.start : Told [] population where
  each := by simp
  linked := .nil
  last := by simp

theorem Told.step {turns : List Turn} {turn : Turn} (told : Told turns population)
    (sound : population.Sound) (answer : population.turn turn.call = .ok turn)
    (turned : population.Turned turn) : Told (turns ++ [turn]) turn.after where
  each := by
    intro past hpast
    rcases List.mem_append.mp hpast with hearlier | hnow
    · exact told.each past hearlier
    · cases List.mem_singleton.mp hnow
      rw [turned.before]
      exact ⟨sound, answer, turned⟩
  linked := by
    refine List.isChain_append.mpr ⟨told.linked, List.isChain_singleton turn, ?_⟩
    intro earlier hearlier later hlater
    cases hlater
    rw [turned.before]
    exact told.last earlier hearlier
  last := by
    intro last hlast
    rw [List.getLast?_append, List.getLast?_singleton] at hlast
    cases hlast
    rfl

end Population

end Vivarium
