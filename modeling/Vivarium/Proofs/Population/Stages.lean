import Vivarium.Proofs.Descriptor.Drawn
import Vivarium.Proofs.Descriptor.Founding
import Vivarium.Proofs.Selection.Culling
import Vivarium.Population.Tick

/-!
# The stages of a tick, accounted for

A tick draws twice, once for founders and once for children, and everything
else follows from what it drew. `Account` says so in full, one equation for each
stage, and is read off the definition once; whatever is said about a tick
elsewhere is said about an account. With a valid configuration neither draw is
refused, so every tick has an account.
-/

namespace Vivarium

open Vivarium.Random

/-! ## Evaluation -/

/-- A cell after an evaluation with the given scores. -/
def Cell.scored (score : Descriptor → Score) (cell : Cell) : Cell :=
  cell.evaluated (score cell.descriptor).fitness

namespace Cell

theorem bornTick_scored (score : Descriptor → Score) (cell : Cell) :
    (cell.scored score).bornTick = cell.bornTick :=
  rfl

@[simp] theorem fitness_scored (score : Descriptor → Score) (cell : Cell) :
    (cell.scored score).fitness = .of (score cell.descriptor).fitness :=
  rfl

theorem aged_of_lt {tick : Nat} {cell : Cell} (h : cell.bornTick < tick) :
    cell.aged tick = cell.older :=
  if_pos h

theorem aged_of_le {tick : Nat} {cell : Cell} (h : tick ≤ cell.bornTick) : cell.aged tick = cell :=
  if_neg (Nat.not_lt.mpr h)

theorem meets_of_judge {config : SelectionConfig} {cell : Cell} {fate : Fate}
    (h : config.judge cell.fitness = fate) (other : Fate) :
    cell.meets config other = (fate == other) := by
  rw [meets, h]

theorem id_aged (tick : Nat) (cell : Cell) : (cell.aged tick).id = cell.id := by
  unfold aged
  split <;> rfl

end Cell

theorem Evaluation.cells_of (tick : Nat) (score : Descriptor → Score) (cells : List Cell) :
    (Evaluation.of tick score cells).cells = cells.map (Cell.scored score) := by
  unfold Evaluation.of
  dsimp only
  rw [List.zipWith_map_right, List.zipWith_self]
  rfl

/-! ## Parents, found by their positions

A parent's position is the number of survivors judged before it, so reading the
survivors at the positions noted gives back those that reproduce, in order. The
induction is on the cells still to be judged; the survivors so far come first. -/

theorem mapM_parentPositions (config : SelectionConfig) (before cells : List Cell) :
    (parentPositions config cells before.length).mapM
        (itemAt (before ++ cells.filter (!·.meets config .dies))) =
      .ok ((cells.filter (!·.meets config .dies)).filter (·.meets config .reproduces)) := by
  induction cells generalizing before with
  | nil => rfl
  | cons cell cells ih =>
      have hnext := ih (before ++ [cell])
      rw [List.length_append, List.length_singleton, List.append_assoc, List.singleton_append]
        at hnext
      cases hfate : config.judge cell.fitness with
      | dies =>
          have hdies : cell.meets config .dies = true := Cell.meets_of_judge hfate .dies
          rw [parentPositions, hfate, List.filter_cons_of_neg (by rw [hdies]; simp)]
          exact ih before
      | survives =>
          have hlives : cell.meets config .dies = false := Cell.meets_of_judge hfate .dies
          have hbarren : cell.meets config .reproduces = false :=
            Cell.meets_of_judge hfate .reproduces
          rw [parentPositions, hfate, List.filter_cons_of_pos (by rw [hlives]; rfl),
            List.filter_cons_of_neg (by rw [hbarren]; simp)]
          exact hnext
      | reproduces =>
          have hlives : cell.meets config .dies = false := Cell.meets_of_judge hfate .dies
          have hfertile : cell.meets config .reproduces = true :=
            Cell.meets_of_judge hfate .reproduces
          have hread : itemAt (before ++ cell :: cells.filter (!·.meets config .dies))
              before.length = .ok cell := by
            rw [itemAt, List.getElem?_append_right (Nat.le_refl _), Nat.sub_self]
            rfl
          rw [parentPositions, hfate, List.filter_cons_of_pos (by rw [hlives]; rfl),
            List.filter_cons_of_pos hfertile, List.mapM_cons, hread, hnext]
          rfl

/-! ## Newcomers

Founders and children get consecutive ids, in the order in which they are made.
A newcomer is a cell as it is made: only where its descriptor came from and who
its parent is tells one from another. -/

/-- Whether a cell has just been made in a tick, with a descriptor within bounds. -/
structure Newcomer (bounds : Bounds) (tick : Nat) (cell : Cell) : Prop where
  inBounds : bounds.Holds cell.descriptor
  alive : cell.alive = true
  age : cell.age = 0
  bornTick : cell.bornTick = tick
  evaluations : cell.evaluations = 0

/-- Whether a cell is a founder as founders are made. -/
structure Founder (bounds : Bounds) (tick : Nat) (cell : Cell) : Prop
    extends Newcomer bounds tick cell where
  parent : cell.parent = none
  lineageDepth : cell.lineageDepth = 0

/-- Whether a cell is a child as children are made of a parent. -/
structure Child (bounds : Bounds) (recalled : Option Descriptor) (tick : Nat)
    (parent cell : Cell) : Prop extends Newcomer bounds tick cell where
  parent_eq : cell.parent = some parent.id
  lineageDepth : cell.lineageDepth = parent.lineageDepth + 1
  descends : parent.descriptor.Descends bounds recalled cell.descriptor

theorem founder_founder {bounds : Bounds} {d : Descriptor} (h : bounds.Holds d) (id tick : Nat) :
    Founder bounds tick (Cell.founder id d tick) where
  inBounds := h
  alive := rfl
  age := rfl
  bornTick := rfl
  evaluations := rfl
  parent := rfl
  lineageDepth := rfl

theorem child_child {bounds : Bounds} {recalled : Option Descriptor} {d : Descriptor}
    (h : bounds.Holds d) {parent : Cell} (hd : parent.descriptor.Descends bounds recalled d)
    (id tick : Nat) : Child bounds recalled tick parent (Cell.child id d parent tick) where
  inBounds := h
  alive := rfl
  age := rfl
  bornTick := rfl
  evaluations := rfl
  parent_eq := rfl
  lineageDepth := rfl
  descends := hd

/-- What drawing some founders gives: as many as asked for, with ids from `id` on. -/
structure Founders (bounds : Bounds) (tick count id : Nat) (cells : List Cell) : Prop where
  ids : cells.map (·.id) = List.range' id count
  each : ∀ cell ∈ cells, Founder bounds tick cell

/-- What drawing children gives: one for each parent in order, with ids from `id` on. -/
structure Children (bounds : Bounds) (recalled : Option Descriptor) (tick : Nat)
    (parents : List Cell) (id : Nat) (cells : List Cell) : Prop where
  ids : cells.map (·.id) = List.range' id parents.length
  each : List.Forall₂ (Child bounds recalled tick) parents cells

theorem Founders.length_eq {bounds : Bounds} {tick count id : Nat} {cells : List Cell}
    (h : Founders bounds tick count id cells) : cells.length = count := by
  have hlen := congrArg List.length h.ids
  rwa [List.length_map, List.length_range'] at hlen

theorem Children.length_eq {bounds : Bounds} {recalled : Option Descriptor} {tick id : Nat}
    {parents cells : List Cell} (h : Children bounds recalled tick parents id cells) :
    cells.length = parents.length :=
  h.each.length_eq.symm

theorem Children.newcomer {bounds : Bounds} {recalled : Option Descriptor} {tick id : Nat}
    {parents cells : List Cell} (h : Children bounds recalled tick parents id cells) :
    ∀ cell ∈ cells, ∃ parent ∈ parents, Child bounds recalled tick parent cell := by
  intro cell hcell
  obtain ⟨i, hi, rfl⟩ := List.getElem_of_mem hcell
  have hparent : i < parents.length := by rwa [← h.length_eq]
  exact ⟨parents[i], List.getElem_mem hparent, h.each.get hparent hi⟩

namespace Random.Draw

variable {bounds : Bounds}

theorem yields_foundersFrom (h : bounds.Sound) (tick count id : Nat) :
    (foundersFrom bounds tick count id).Yields (Founders bounds tick count id) := by
  induction count generalizing id with
  | zero => exact yields_pure ⟨rfl, by simp⟩
  | succ count ih =>
      unfold foundersFrom
      refine yields_bind (yields_descriptor h) fun d lawful => ?_
      have hd := (Bounds.holds_iff_admits h.proper).mpr lawful.counts
      refine yields_bind (ih (id + 1)) fun rest hrest => yields_pure ?_
      constructor
      · rw [List.map_cons, hrest.ids, List.range'_succ]
        rfl
      · intro cell hcell
        rcases List.mem_cons.mp hcell with rfl | hmem
        · exact founder_founder hd id tick
        · exact hrest.each cell hmem

theorem yields_childrenFrom {config : FieldConfig} (h : config.Valid)
    (recalled : Option Descriptor) (tick : Nat) {parents : List Cell}
    (hparents : ∀ parent ∈ parents, config.bounds.Holds parent.descriptor) (id : Nat) :
    (childrenFrom config recalled tick parents id).Yields
      (Children config.bounds recalled tick parents id) := by
  induction parents generalizing id with
  | nil => exact yields_pure ⟨rfl, .nil⟩
  | cons parent parents ih =>
      unfold childrenFrom
      have hparent := hparents parent List.mem_cons_self
      have hrest := fun p hp => hparents p (List.mem_cons_of_mem _ hp)
      refine yields_bind (yields_offspring h.bias_unit h.structural_unit h.bounds recalled hparent)
        fun drawn hdrawn => ?_
      refine yields_bind (ih hrest (id + 1)) fun cells hcells => yields_pure ?_
      constructor
      · rw [List.map_cons, hcells.ids, List.length_cons, List.range'_succ]
        rfl
      · exact .cons (child_child hdrawn.1 hdrawn.2 id tick) hcells.each

end Random.Draw

/-! ## The account of a tick -/

namespace Population

/-- The scores that a tick gives: those in the context that it takes in. -/
def scores (population : Population) (poll : Poll) : Descriptor → Score :=
  Population.score { population with
    context := (Ingest.of population.config.population.batchSize population.context poll).context }

/-- How many founders the next tick makes. -/
def seeds (population : Population) : Nat :=
  if population.cells.isEmpty then population.config.population.initialSize else 0

/-- The live cells of a population as the next tick evaluates them. -/
def reviewed (population : Population) (poll : Poll) : List Cell :=
  population.cells.map (Cell.scored (population.scores poll))

/-- The cells that culling is offered: survivors, founders and children, in this order. -/
def Stages.lineup (stages : Stages) : List Cell :=
  stages.survivors ++ stages.founders.cells ++ stages.children.cells

/-- How the stages of a tick follow from a population, a poll, and the cells that were drawn. -/
structure Account (population : Population) (poll : Poll) (founders children : List Cell)
    (middle : Source) (stages : Stages) : Prop where
  tick : stages.tick = population.generation + 1
  ingest : stages.ingest =
    Ingest.of population.config.population.batchSize population.context poll
  established : stages.established =
    Evaluation.of (population.generation + 1) (population.scores poll) population.cells
  foundersDrawn : (foundersFrom population.config.bounds (population.generation + 1)
    population.seeds population.nextId).run population.source = .ok (founders, middle)
  founders : stages.founders =
    Evaluation.of (population.generation + 1) (population.scores poll) founders
  dying : stages.dying =
    ((population.reviewed poll).filter (·.meets population.config.selection .dies)).map Cell.dead
  survivors : stages.survivors =
    (population.reviewed poll).filter (!·.meets population.config.selection .dies)
  afterDeaths : stages.afterDeaths = population.memory.observeAll stages.dying
  childrenDrawn : (childrenFrom population.config
    (stages.afterDeaths.2.best.map (·.descriptor)) (population.generation + 1)
    (stages.survivors.filter (·.meets population.config.selection .reproduces))
    (population.nextId + population.seeds)).run middle = .ok (children, stages.source)
  children : stages.children =
    Evaluation.of (population.generation + 1) (population.scores poll) children
  culling : stages.culling = cullExcess stages.lineup population.config.population.maxSize
  afterCulls : stages.afterCulls = stages.afterDeaths.2.observeAll stages.culling.culled

theorem account_of_stages {population : Population} {poll : Poll} {stages : Stages}
    (h : population.stages poll = .ok stages) :
    ∃ founders children middle, population.Account poll founders children middle stages := by
  unfold Population.stages at h
  simp only [bind_eq_ok] at h
  obtain ⟨⟨founders, middle⟩, hfounders, parents, hparents, ⟨children, last⟩, hchildren,
    hstages⟩ := h
  cases Except.ok.inj (hparents.symm.trans (mapM_parentPositions _ [] _))
  cases hstages
  refine ⟨founders, children, middle, ?_⟩
  exact {
    tick := rfl
    ingest := rfl
    established := rfl
    foundersDrawn := hfounders
    founders := rfl
    dying := by rw [reviewed, ← Evaluation.cells_of]; rfl
    survivors := by rw [reviewed, ← Evaluation.cells_of]; rfl
    afterDeaths := rfl
    childrenDrawn := hchildren
    children := rfl
    culling := rfl
    afterCulls := rfl }

namespace Account

variable {population : Population} {poll : Poll} {founders children : List Cell}
  {middle : Source} {stages : Stages}

/-- Culling only divides the line, and marks those who go. -/
theorem divides (account : population.Account poll founders children middle stages) :
    ∃ chosen, stages.culling.culled = chosen.map Cell.dead ∧
      (stages.culling.kept ++ chosen).Perm stages.lineup := by
  rw [account.culling]
  exact cullExcess_perm _ _

theorem lineup_of_kept (account : population.Account poll founders children middle stages)
    {cell : Cell} (h : cell ∈ stages.culling.kept) : cell ∈ stages.lineup := by
  obtain ⟨chosen, -, hperm⟩ := account.divides
  exact hperm.mem_iff.mp (List.mem_append_left _ h)

theorem lineup_of_culled (account : population.Account poll founders children middle stages)
    {gone : Cell} (h : gone ∈ stages.culling.culled) :
    ∃ cell ∈ stages.lineup, gone = cell.dead := by
  obtain ⟨chosen, hculled, hperm⟩ := account.divides
  rw [hculled] at h
  obtain ⟨cell, hcell, rfl⟩ := List.mem_map.mp h
  exact ⟨cell, hperm.mem_iff.mp (List.mem_append_right _ hcell), rfl⟩

theorem kept_or_dead (account : population.Account poll founders children middle stages)
    {cell : Cell} (h : cell ∈ stages.lineup) :
    cell ∈ stages.culling.kept ∨ cell.dead ∈ stages.culling.culled := by
  obtain ⟨chosen, hculled, hperm⟩ := account.divides
  rw [hculled]
  exact (List.mem_append.mp (hperm.mem_iff.mpr h)).imp_right fun hchosen =>
    List.mem_map_of_mem hchosen

end Account

theorem mem_reviewed {population : Population} {poll : Poll} {cell : Cell} :
    cell ∈ population.reviewed poll ↔
      ∃ before ∈ population.cells, before.scored (population.scores poll) = cell :=
  List.mem_map

theorem holds_of_mem_reviewed {population : Population}
    (hcells : ∀ cell ∈ population.cells, population.config.bounds.Holds cell.descriptor)
    {poll : Poll} {cell : Cell} (h : cell ∈ population.reviewed poll) :
    population.config.bounds.Holds cell.descriptor := by
  obtain ⟨before, hbefore, rfl⟩ := mem_reviewed.mp h
  exact hcells before hbefore

theorem exists_stages {population : Population} (valid : population.config.Valid)
    (hcells : ∀ cell ∈ population.cells, population.config.bounds.Holds cell.descriptor)
    (poll : Poll) : ∃ stages, population.stages poll = .ok stages := by
  unfold Population.stages
  refine exists_bind_eq_ok ((Draw.yields_foundersFrom valid.bounds _ _ _).exists_run _) ?_
  rintro ⟨founders, middle⟩ -
  have hread := mapM_parentPositions population.config.selection [] (Evaluation.of
    (population.generation + 1) (population.scores poll) population.cells).cells
  refine exists_bind_eq_ok ⟨_, hread⟩ fun parents hparents => ?_
  cases Except.ok.inj (hparents.symm.trans hread)
  refine exists_bind_eq_ok ?_ fun _ _ => ⟨_, rfl⟩
  refine (Draw.yields_childrenFrom valid _ _ (fun parent hparent => ?_) _).exists_run _
  -- A parent is one of the cells as they were evaluated.
  rw [Evaluation.cells_of] at hparent
  exact holds_of_mem_reviewed hcells (List.mem_of_mem_filter (List.mem_of_mem_filter hparent))

end Population

end Vivarium
