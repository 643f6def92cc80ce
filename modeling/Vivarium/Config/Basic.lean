import Vivarium.Adaptation.Emitter
import Vivarium.Descriptor.Offspring
import Vivarium.Lineage
import Vivarium.Selection

/-!
# Configurations

A configuration has a section for every part of the field, and every setting
has a value it takes when nothing is said. The standard rules raise the rate
of exploration when the population dies out or loses its variety, and tune one
outside parameter to how the field is doing.
-/

namespace Vivarium

/-- The sizes of the population and of a batch. -/
structure PopulationConfig where
  initialSize : Nat := 25
  maxSize : Nat := 100
  batchSize : Nat := 64

/-- The period of ticks, in milliseconds, and the sizes of the two queues. -/
structure ScheduleConfig where
  period : Nat := 5000
  feedCapacity : Nat := 1024
  signalCapacity : Nat := 64

/-- Where the audit log is, how much of it is replayed, and what is left out. -/
structure AuditConfig where
  path : Option String := none
  replayEntries : Nat := 0
  recordObservations : Bool := true
  recordFitness : Bool := true

/-- The parameter that the standard rules use to widen the search. -/
def explorationRate : String := "field.exploration_rate"

/-- The outside parameter that the standard rules tune. -/
def swappiness : String := "vm.swappiness"

/-- The rules that are used unless others are given. -/
def standardRules : List Rule :=
  [ { condition := .diversityBelow 0.2
      parameter := explorationRate
      value := 0.5
      reason := "architecture diversity collapsed" },
    { condition := .extinct
      parameter := explorationRate
      value := 0.9
      reason := "population extinct" },
    { condition := .meanFitnessAbove 0.7
      parameter := swappiness
      value := 30
      reason := "population thriving" },
    { condition := .dissonanceAbove 0.6
      parameter := swappiness
      value := 10
      reason := "affective dissonance" } ]

/-- The adaptation settings that are used unless others are given. -/
def AdaptationConfig.standard : AdaptationConfig :=
  { rules := standardRules }

/-- All settings of a field. -/
structure FieldConfig where
  population : PopulationConfig := {}
  selection : SelectionConfig := {}
  fitness : FitnessConfig := {}
  mutation : MutationConfig := {}
  bounds : Bounds := {}
  lineage : LineageConfig := {}
  adaptation : AdaptationConfig := .standard
  schedule : ScheduleConfig := {}
  audit : AuditConfig := {}
  seed : Option Nat := none

end Vivarium
