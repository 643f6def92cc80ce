import Vivarium.Population.Basic

/-!
# A tick

A tick takes in what the feed gives, seeds the population if it is empty,
evaluates every cell, lets the unfit die and the fit reproduce, culls what
exceeds the bound, and lets those that were there before grow older. Each stage
is a function of its own and the tick only strings them together.

The order matters where memory and randomness are concerned. Deaths are
remembered before children are drawn, so that a child may repeat a pattern that
has just died, and culls after, so that no child depends on who is culled.
Children are drawn in the order of their parents, whose positions among the
survivors are noted while the cells are judged.
-/

namespace Vivarium

open Number Vivarium.Random

/-- What the feed made of a context. -/
structure Ingest where
  context : Context
  observations : List Observation
  degraded : Bool

/-- Takes in what a feed gives; without a batch, or events that count, the context stays. -/
def Ingest.of (batchSize : Nat) (context : Context) : Poll → Ingest
  | .ok batch =>
      let (found, accepted) := Context.ofBatch (batch.take batchSize)
      { context := found.getD context, observations := accepted, degraded := false }
  | .error _ => { context, observations := [], degraded := true }

/-- Founders with ids from `id` on. -/
def foundersFrom (bounds : Bounds) (tick : Nat) : Nat → Nat → Draw (List Cell)
  | 0, _ => return []
  | count + 1, id => do
      let first := Cell.founder id (← Draw.descriptor bounds) tick
      return first :: (← foundersFrom bounds tick count (id + 1))

/-- Children of the given parents, with ids from `id` on. -/
def childrenFrom (config : FieldConfig) (recalled : Option Descriptor) (tick : Nat) :
    List Cell → Nat → Draw (List Cell)
  | [], _ => return []
  | parent :: rest, id => do
      let drawn ← Draw.offspring config.mutation config.bounds recalled parent.descriptor
      let first := Cell.child id drawn.descriptor parent tick
      return first :: (← childrenFrom config recalled tick rest (id + 1))

/-- Cells after an evaluation, and the record of each. -/
structure Evaluation where
  cells : List Cell
  records : List FitnessRecord

/-- Evaluates cells with a score for every descriptor. -/
def Evaluation.of (tick : Nat) (score : Descriptor → Score) (cells : List Cell) : Evaluation :=
  let records := cells.map fun cell =>
    { tick, cell := cell.id, descriptor := cell.descriptor, score := score cell.descriptor }
  { cells := cells.zipWith (fun cell record => cell.evaluated record.score.fitness) records
    records }

def Cell.meets (config : SelectionConfig) (fate : Fate) (cell : Cell) : Bool :=
  config.judge cell.fitness == fate

/-- Where those that reproduce stand among the survivors, of whom `next` came before. -/
def parentPositions (config : SelectionConfig) : List Cell → Nat → List Nat
  | [], _ => []
  | cell :: rest, next =>
      match config.judge cell.fitness with
      | .dies => parentPositions config rest next
      | .survives => parentPositions config rest (next + 1)
      | .reproduces => next :: parentPositions config rest (next + 1)

/-- A cell after a tick: a cell that was there before is one tick older. -/
def Cell.aged (tick : Nat) (cell : Cell) : Cell :=
  if cell.bornTick < tick then cell.older else cell

/-- The mean of some fitness values, added up in doubles. -/
def meanOf (values : List Float32) : Float32 :=
  if values.isEmpty then 0
  else narrow (sumDouble (values.map widen) / Float.ofNat values.length)

/-- The number of distinct descriptors per cell. -/
def diversityOf (descriptors : List Descriptor) : Float32 :=
  if descriptors.isEmpty then 0
  else Float32.ofNat descriptors.eraseDups.length / Float32.ofNat descriptors.length

namespace Population

/-- Everything that happens in a tick, stage by stage. -/
structure Stages where
  tick : Nat
  ingest : Ingest
  established : Evaluation
  founders : Evaluation
  dying : List Cell
  survivors : List Cell
  afterDeaths : List LineageRecord × Memory
  children : Evaluation
  culling : Culling
  afterCulls : List LineageRecord × Memory
  source : Source

/-- Runs the stages of the next tick on what the feed gives. -/
def stages (population : Population) (poll : Poll) : Except Fault Stages := do
  let config := population.config
  let tick := population.generation + 1
  let ingest := Ingest.of config.population.batchSize population.context poll
  let score := Population.score { population with context := ingest.context }
  let seeds := if population.cells.isEmpty then config.population.initialSize else 0
  let (founders, source) ←
    (foundersFrom config.bounds tick seeds population.nextId).run population.source
  -- Founders are evaluated but not judged: only those who were there before can die or reproduce.
  let established := Evaluation.of tick score population.cells
  let founders := Evaluation.of tick score founders
  let dying := (established.cells.filter (·.meets config.selection .dies)).map Cell.dead
  let survivors := established.cells.filter (!·.meets config.selection .dies)
  let parents ← (parentPositions config.selection established.cells 0).mapM (itemAt survivors)
  let afterDeaths := population.memory.observeAll dying
  -- A child may recall a pattern of a cell that died in this very tick.
  let recalled := afterDeaths.2.best.map (·.descriptor)
  let (children, source) ←
    (childrenFrom config recalled tick parents (population.nextId + seeds)).run source
  let children := Evaluation.of tick score children
  let culling :=
    cullExcess (survivors ++ founders.cells ++ children.cells) config.population.maxSize
  let afterCulls := afterDeaths.2.observeAll culling.culled
  return { tick, ingest, established, founders, dying, survivors, afterDeaths, children, culling,
           afterCulls, source }

namespace Stages

/-- The records of all evaluations of the tick. -/
def records (stages : Stages) : List FitnessRecord :=
  stages.established.records ++ stages.founders.records ++ stages.children.records

/-- The cells at the end of the tick. -/
def cells (stages : Stages) : List Cell :=
  stages.culling.kept.map (Cell.aged stages.tick)

def metrics (stages : Stages) : Metrics :=
  let fitness := stages.cells.map (·.fitness.value)
  { tick := stages.tick
    population := stages.cells.length
    meanFitness := meanOf fitness
    bestFitness := fitness.foldl larger 0
    diversity := diversityOf (stages.cells.map (·.descriptor))
    extinct := stages.cells.isEmpty
    degraded := stages.ingest.degraded
    reseeded := stages.established.cells.isEmpty
    births := stages.children.cells.length
    deaths := stages.dying.length
    culled := stages.culling.culled.length
    faults := stages.records.countP (·.score.fault)
    meanAffect := stages.ingest.context.meanAffect
    affectVariance := stages.ingest.context.affectVariance }

end Stages

/-- The population after the stages of a tick. -/
def after (population : Population) (stages : Stages) : Population :=
  let extinctions := population.extinctions + if stages.cells.isEmpty then 1 else 0
  let capacityEvents :=
    population.capacityEvents + if stages.culling.culled.isEmpty then 0 else 1
  { population with
    source := stages.source
    memory := stages.afterCulls.2
    cells := stages.cells
    context := stages.ingest.context
    generation := stages.tick
    nextId := population.nextId + stages.founders.cells.length + stages.children.cells.length
    extinctions
    capacityEvents
    snapshot :=
      { generation := stages.tick
        cells := stages.cells
        metrics := stages.metrics
        extinctions
        capacityEvents } }

/-- One tick on what the feed gives. -/
def tick (population : Population) (poll : Poll) : Except Fault (TickReport × Population) := do
  let stages ← population.stages poll
  let next := population.after stages
  return (
    { snapshot := next.snapshot
      fitness := stages.records
      lineage := stages.afterDeaths.1 ++ stages.afterCulls.1
      observations := stages.ingest.observations },
    next)

end Population

end Vivarium
