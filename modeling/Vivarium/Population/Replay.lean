import Vivarium.Audit.Log
import Vivarium.Population.Basic

/-!
# Replaying history

A population can be given a past. Lineage records go back into the memory in
the order in which they were written. If no cell lives yet, founders take the
descriptors of the most recent evaluations that were no faults, moved into
bounds, as many as a seeding would make. Other entries say nothing about the
state.
-/

namespace Vivarium

/-- Founders with given descriptors and ids from `id` on. -/
def foundersWith (tick : Nat) : List Descriptor → Nat → List Cell
  | [], _ => []
  | d :: rest, id => Cell.founder id d tick :: foundersWith tick rest (id + 1)

namespace Population

/-- The descriptors that a replay founds cells with. -/
def revived (population : Population) (entries : List AuditEntry) :
    Except Fault (List Descriptor) :=
  if population.cells.isEmpty then
    (lastOf population.config.population.initialSize
      (entries.filterMap AuditEntry.soundDescriptor?)).mapM population.config.bounds.clamp
  else .ok []

/-- Gives a population the past that some entries tell of. -/
def replay (population : Population) (entries : List AuditEntry) :
    Except Fault (Replayed × Population) := do
  let (lineages, memory) := population.memory.restoreAll (entries.filterMap AuditEntry.lineage?)
  let revived ← population.revived entries
  let founders := foundersWith population.generation revived population.nextId
  return (
    { lineages, cells := founders.length },
    { population with
      memory
      cells := population.cells ++ founders
      nextId := population.nextId + founders.length })

end Population

end Vivarium
