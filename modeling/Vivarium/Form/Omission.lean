import Vivarium.Form.Config

/-!
# Leaving out settings

Whoever writes a configuration by hand leaves out what need not be said, single
settings or whole sections. The weights of fitness are one setting. What is left
out of the written form stands at its standard value in the configuration.
-/

namespace Vivarium

/-- Which sections, and which settings of which section, are left out. -/
structure Omission where
  sections : String → Bool
  settings : String → String → Bool

/-- Nothing is left out. -/
def Omission.nothing : Omission :=
  { sections := fun _ => false, settings := fun _ _ => false }

namespace Json

/-- An object without the members that are gone. -/
def without (gone : String → Bool) : Json → Json
  | .object members => .object (members.filter fun m => !m.1.any gone)
  | value => value

/-- The written form of a configuration without the settings and sections left out. -/
def cut (omission : Omission) : Json → Json
  | .object members =>
      without omission.sections
        (.object (members.map fun (key, value) =>
          (key, value.without (omission.settings (key.getD "")))))
  | value => value

end Json

/-- The population settings with those that are gone at their standard values. -/
def PopulationConfig.without (gone : String → Bool) (config : PopulationConfig) :
    PopulationConfig :=
  let standard : PopulationConfig := {}
  { initialSize := if gone "initial_size" then standard.initialSize else config.initialSize
    maxSize := if gone "max_size" then standard.maxSize else config.maxSize
    batchSize := if gone "batch_size" then standard.batchSize else config.batchSize }

def SelectionConfig.without (gone : String → Bool) (config : SelectionConfig) : SelectionConfig :=
  let standard : SelectionConfig := {}
  { death := if gone "death_threshold" then standard.death else config.death
    birth := if gone "birth_threshold" then standard.birth else config.birth }

def FitnessConfig.without (gone : String → Bool) (config : FitnessConfig) : FitnessConfig :=
  let standard : FitnessConfig := {}
  { weights := if gone "weights" then standard.weights else config.weights
    targetEntropy :=
      if gone "target_entropy" then standard.targetEntropy else config.targetEntropy }

def MutationConfig.without (gone : String → Bool) (config : MutationConfig) : MutationConfig :=
  let standard : MutationConfig := {}
  { bias := if gone "bias_probability" then standard.bias else config.bias
    structural := if gone "structural_probability" then standard.structural else config.structural }

def Bounds.without (gone : String → Bool) (bounds : Bounds) : Bounds :=
  let standard : Bounds := {}
  { layers := if gone "layers" then standard.layers else bounds.layers
    width := if gone "width" then standard.width else bounds.width
    heads := if gone "heads" then standard.heads else bounds.heads
    kernel := if gone "kernel" then standard.kernel else bounds.kernel
    kinds := if gone "kinds" then standard.kinds else bounds.kinds }

def LineageConfig.without (gone : String → Bool) (config : LineageConfig) : LineageConfig :=
  let standard : LineageConfig := {}
  { capacity := if gone "capacity" then standard.capacity else config.capacity
    survivalAge :=
      if gone "survival_age_threshold" then standard.survivalAge else config.survivalAge
    cutoff := if gone "success_cutoff" then standard.cutoff else config.cutoff }

def AdaptationConfig.without (gone : String → Bool) (config : AdaptationConfig) :
    AdaptationConfig :=
  let standard := AdaptationConfig.standard
  { rules := if gone "rules" then standard.rules else config.rules
    window := if gone "dissonance_window" then standard.window else config.window }

def ScheduleConfig.without (gone : String → Bool) (config : ScheduleConfig) : ScheduleConfig :=
  let standard : ScheduleConfig := {}
  { period := if gone "period_ms" then standard.period else config.period
    feedCapacity := if gone "feed_capacity" then standard.feedCapacity else config.feedCapacity
    signalCapacity :=
      if gone "signal_capacity" then standard.signalCapacity else config.signalCapacity }

def AuditConfig.without (gone : String → Bool) (config : AuditConfig) : AuditConfig :=
  let standard : AuditConfig := {}
  { path := if gone "path" then standard.path else config.path
    replayEntries := if gone "replay_entries" then standard.replayEntries else config.replayEntries
    recordObservations :=
      if gone "record_observations" then standard.recordObservations else config.recordObservations
    recordFitness :=
      if gone "record_fitness" then standard.recordFitness else config.recordFitness }

/-- A configuration with the settings and sections that are left out at their standard values. -/
def FieldConfig.without (omission : Omission) (config : FieldConfig) : FieldConfig :=
  let gone := omission.sections
  let within := omission.settings
  { population := if gone "population" then {} else config.population.without (within "population")
    selection := if gone "selection" then {} else config.selection.without (within "selection")
    fitness := if gone "fitness" then {} else config.fitness.without (within "fitness")
    mutation := if gone "mutation" then {} else config.mutation.without (within "mutation")
    bounds := if gone "bounds" then {} else config.bounds.without (within "bounds")
    lineage := if gone "meta" then {} else config.lineage.without (within "meta")
    adaptation :=
      if gone "adaptation" then .standard else config.adaptation.without (within "adaptation")
    schedule := if gone "schedule" then {} else config.schedule.without (within "schedule")
    audit := if gone "audit" then {} else config.audit.without (within "audit")
    seed := if gone "random_seed" then none else config.seed }

end Vivarium
