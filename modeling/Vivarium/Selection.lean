import Vivarium.Cell

/-!
# Selection

Fitness decides a cell's fate against two thresholds, and neither threshold
itself is enough: a cell dies strictly below the one and reproduces strictly
above the other.

When the population outgrows its bound, cells are culled by rank: lowest
fitness first, of equal fitness the younger, of equal age the newer. Those that
remain keep the order they stood in.
-/

namespace Vivarium

open Number

/-- The thresholds of selection. -/
structure SelectionConfig where
  death : Float32 := 0.3
  birth : Float32 := 0.65

/-- What selection does with a cell. -/
inductive Fate where
  | dies
  | survives
  | reproduces
  deriving DecidableEq, Repr

namespace SelectionConfig

/-- The fate of a cell with the given fitness. -/
def judge (config : SelectionConfig) (fitness : Float32) : Fate :=
  if fitness < config.death then .dies
  else if config.birth < fitness then .reproduces
  else .survives

end SelectionConfig

namespace Cell

/-- Whether `a` is culled no later than `b`. -/
def cullLe (a b : Cell) : Bool :=
  -- Ranks compare words: zero and negative zero are not a tie, nor are two NaNs of unlike words.
  if rank a.fitness = rank b.fitness then
    if a.age = b.age then b.id ≤ a.id else a.age < b.age
  else rank a.fitness < rank b.fitness

end Cell

/-- Cells in the order in which they are culled. -/
def cullOrder (cells : List Cell) : List Cell :=
  cells.mergeSort Cell.cullLe

/-- The last position of a cell with the given id. -/
def lastPosition (cells : List Cell) (id : Nat) : Nat :=
  cells.length - 1 - cells.reverse.findIdx (·.id == id)

/-- Some of the cells, in the order in which their ids stand among all of them. -/
def inOrderOf (cells some : List Cell) : List Cell :=
  let placed := some.map fun cell => (lastPosition cells cell.id, cell)
  (placed.mergeSort fun a b => a.1 ≤ b.1).map (·.2)

/-- What culling leaves, and what it takes. -/
structure Culling where
  kept : List Cell
  culled : List Cell

/-- Culls cells until at most `max` remain. -/
def cullExcess (cells : List Cell) (max : Nat) : Culling :=
  if cells.length ≤ max then { kept := cells, culled := [] }
  else
    let ranked := cullOrder cells
    let excess := cells.length - max
    { kept := inOrderOf cells (ranked.drop excess)
      culled := (ranked.take excess).map Cell.dead }

end Vivarium
