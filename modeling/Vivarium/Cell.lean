import Vivarium.Fitness

/-!
# Cells

A cell is one member of the population. Its descriptor never changes; its
fitness is that of the latest evaluation, and the sum of all of them is kept
for the mean over its lifetime. Cells are ranked by fitness and lineages by such
means, so all three are kept as words. A founder has no parent and depth zero; a
child knows its parent and stands one step deeper.
-/

namespace Vivarium

open Number

/-- One member of the population. -/
structure Cell where
  id : Nat
  descriptor : Descriptor
  fitness : Single := 0
  age : Nat := 0
  alive : Bool := true
  parent : Option Nat := none
  lineageDepth : Nat := 0
  bornTick : Nat
  fitnessSum : Double := .ofCount 0
  evaluations : Nat := 0

namespace Cell

/-- A cell without ancestors. -/
def founder (id : Nat) (descriptor : Descriptor) (tick : Nat) : Cell :=
  { id, descriptor, bornTick := tick }

def child (id : Nat) (descriptor : Descriptor) (parent : Cell) (tick : Nat) : Cell :=
  { founder id descriptor tick with
    parent := some parent.id
    lineageDepth := parent.lineageDepth + 1 }

/-- The cell with one more fitness on record, whatever the word. -/
def recorded (cell : Cell) (fitness : Single) : Cell :=
  { cell with
    fitness
    fitnessSum := cell.fitnessSum + fitness.widen
    evaluations := cell.evaluations + 1 }

def evaluated (cell : Cell) (fitness : Float32) : Cell :=
  cell.recorded fitness

/-- The mean fitness over the cell's lifetime; zero before the first evaluation. -/
def meanFitness (cell : Cell) : Single :=
  if cell.evaluations = 0 then 0 else (cell.fitnessSum / .ofCount cell.evaluations).narrow

/-- The cell once it has left the population. -/
def dead (cell : Cell) : Cell :=
  { cell with alive := false }

def older (cell : Cell) : Cell :=
  { cell with age := cell.age + 1 }

end Cell

/-- One evaluation of one cell. -/
structure FitnessRecord where
  tick : Nat
  cell : Nat
  descriptor : Descriptor
  score : Score

end Vivarium
