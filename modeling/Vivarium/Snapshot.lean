import Vivarium.Cell
import Vivarium.Number.Text

/-!
# Snapshots

At the end of every tick the population is published as a snapshot: the live
cells, the figures of the tick, and how often the population died out or had to
be culled so far. A status is what an outside observer gets to see of it.
-/

namespace Vivarium

/-- The figures of one tick. -/
structure Metrics where
  tick : Nat := 0
  population : Nat := 0
  meanFitness : Float32 := 0
  bestFitness : Float32 := 0
  diversity : Float32 := 0
  extinct : Bool := false
  degraded : Bool := false
  reseeded : Bool := false
  births : Nat := 0
  deaths : Nat := 0
  culled : Nat := 0
  faults : Nat := 0
  meanAffect : Float32 := 0
  affectVariance : Float32 := 0

/-- The population at the end of a tick. -/
structure Snapshot where
  generation : Nat := 0
  cells : List Cell := []
  metrics : Metrics := {}
  extinctions : Nat := 0
  capacityEvents : Nat := 0

/-- What an outside observer sees. -/
structure Status where
  population : Nat := 0
  meanFitness : Float32 := 0
  diversity : Float32 := 0
  generation : Nat := 0
  extinctions : Nat := 0

def Snapshot.status (snapshot : Snapshot) : Status :=
  { population := snapshot.metrics.population
    meanFitness := snapshot.metrics.meanFitness
    diversity := snapshot.metrics.diversity
    generation := snapshot.generation
    extinctions := snapshot.extinctions }

/-- A status on one line. -/
def Status.text (status : Status) : String :=
  let mean := Number.thousandths status.meanFitness
  let diversity := Number.thousandths status.diversity
  s!"generation {status.generation}: {status.population} cells, mean fitness {mean}, " ++
    s!"diversity {diversity}, {status.extinctions} extinctions"

end Vivarium
