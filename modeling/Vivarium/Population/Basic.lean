import Vivarium.Audit.Entry
import Vivarium.Config.Validity
import Vivarium.Descriptor.Founding

/-!
# Populations

A population owns its cells, the context they live in, the memory of lineages
and the source of randomness. Everything it will ever do follows from these and
from what the feed says. Ids are given out in order and never twice.
-/

namespace Vivarium

open Vivarium.Random

/-- A population between two ticks. -/
structure Population where
  config : FieldConfig
  interpret : Interpreter
  source : Source
  memory : Memory
  cells : List Cell := []
  context : Context := .neutral
  generation : Nat := 0
  nextId : Nat := 0
  extinctions : Nat := 0
  capacityEvents : Nat := 0
  snapshot : Snapshot := {}

namespace Population

/-- A population without cells that draws from a source. -/
def fresh (config : FieldConfig) (interpret : Interpreter) (source : Source) : Population :=
  { config, interpret, source, memory := { config := config.lineage } }

/-- The population of a configuration, if that is valid; a missing seed is zero. -/
def create (config : FieldConfig) (interpret : Interpreter) : Except ConfigError Population := do
  config.check
  return fresh config interpret (.seeded (UInt64.ofNat (config.seed.getD 0)))

/-- The score of a descriptor in the present context. -/
def score (population : Population) (d : Descriptor) : Score :=
  population.config.fitness.evaluate population.interpret population.context d

end Population

/-- What a tick produced besides the new state. -/
structure TickReport where
  snapshot : Snapshot
  fitness : List FitnessRecord
  lineage : List LineageRecord
  observations : List Observation

/-- What a replay brought back. -/
structure Replayed where
  lineages : Nat
  cells : Nat
  deriving DecidableEq, Repr

end Vivarium
