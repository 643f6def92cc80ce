import Vivarium.Config.Basic
import Vivarium.Text.Blank
import Vivarium.Text.Quoted

/-!
# Valid configurations

A configuration is checked section by section and the first thing wrong with
it is reported. The checks are exactly what the field relies on afterwards:
sizes and capacities that are not zero, ranges the right way up, chances and
thresholds in the unit interval, weights that sum to one, and rules that name a
parameter and a finite value.
-/

namespace Vivarium

open Number

/-- What is wrong with a configuration. -/
inductive ConfigError where
  | population (cause : String)
  | thresholds (death birth : Float32)
  | weight (cause : String)
  | outOfUnit (name : String) (value : Float32)
  | bounds (cause : String)
  | lineage (cause : String)
  | schedule (cause : String)
  | rule (index : Nat) (parameter : String)

namespace ConfigError

def message : ConfigError → String
  | .population cause => "Invalid population settings: " ++ cause
  | .thresholds death birth =>
      s!"Death threshold ({plainSingle death}) must be below birth threshold " ++
        s!"({plainSingle birth}), both in [0, 1]"
  | .weight cause => "Invalid fitness weight: " ++ cause
  | .outOfUnit name value => s!"{name} must lie in [0, 1], got {plainSingle value}"
  | .bounds cause => "Invalid parameter bounds: " ++ cause
  | .lineage cause => "Invalid meta-learner settings: " ++ cause
  | .schedule cause => "Invalid schedule: " ++ cause
  | .rule index parameter =>
      s!"Adaptation rule {index} ({Text.quoted parameter}) needs a parameter name and a " ++
        "finite value"

end ConfigError

abbrev Check := Except ConfigError Unit

namespace Check

/-- Passes if the condition holds. -/
def demand (condition : Bool) (error : ConfigError) : Check :=
  if condition then .ok () else .error error

/-- Passes if the value lies in the unit interval. -/
def unit (name : String) (value : Float32) : Check :=
  demand (inUnit value) (.outOfUnit name value)

end Check

open Check

def PopulationConfig.check (config : PopulationConfig) : Check := do
  demand (config.initialSize != 0) (.population "initial_size must be at least 1")
  demand (config.maxSize != 0) (.population "max_size must be at least 1")
  demand (config.initialSize ≤ config.maxSize)
    (.population s!"initial_size ({config.initialSize}) exceeds max_size ({config.maxSize})")
  demand (config.batchSize != 0) (.population "batch_size must be at least 1")

def SelectionConfig.check (config : SelectionConfig) : Check :=
  demand (inUnit config.death && inUnit config.birth && config.death < config.birth)
    (.thresholds config.death config.birth)

def checkWeight (weight : Float32) : Check :=
  demand (weight.isFinite && 0 ≤ weight)
    (.weight s!"Weight {plainSingle weight} must be finite and non-negative")

/-- How far the sum of the weights may be from one. -/
def weightTolerance : Float32 := 1e-6

def Weights.check (weights : Weights) : Check := do
  checkWeight weights.resonance
  checkWeight weights.entropy
  checkWeight weights.surprise
  demand (!(weightTolerance < (weights.sum - 1).abs))
    (.weight s!"Weights sum to {plainSingle weights.sum}, expected 1")

def FitnessConfig.check (config : FitnessConfig) : Check := do
  config.weights.check
  unit "target_entropy" config.targetEntropy

def MutationConfig.check (config : MutationConfig) : Check := do
  unit "bias_probability" config.bias
  unit "structural_probability" config.structural

def Span.check (span : Span) (name : String) : Check :=
  demand (span.low != 0 && span.ordered)
    (.bounds s!"{name} min ({span.low}) must be positive and <= max ({span.high})")

def Bounds.check (bounds : Bounds) : Check := do
  bounds.layers.check "layers"
  bounds.width.check "width"
  bounds.kernel.check "kernel"
  demand (!bounds.heads.isEmpty && !bounds.heads.contains 0)
    (.bounds "heads must be a non-empty set of positive counts")
  demand (!bounds.kinds.isEmpty) (.bounds "at least one descriptor kind must be allowed")

def LineageConfig.check (config : LineageConfig) : Check := do
  demand (config.capacity != 0) (.lineage "capacity must be at least 1")
  unit "success_cutoff" config.cutoff

def ScheduleConfig.check (config : ScheduleConfig) : Check := do
  demand (config.period != 0) (.schedule "period_ms must be positive")
  demand (config.feedCapacity != 0 && config.signalCapacity != 0)
    (.schedule "queue capacities must be at least 1")

/-- Checks the rules from a position on. -/
def checkRules (index : Nat) : List Rule → Check
  | [] => .ok ()
  | rule :: rest => do
      demand (!Text.allBlank rule.parameter && rule.value.isFinite) (.rule index rule.parameter)
      checkRules (index + 1) rest

def FieldConfig.check (config : FieldConfig) : Check := do
  config.population.check
  config.selection.check
  config.fitness.check
  config.mutation.check
  config.bounds.check
  config.lineage.check
  config.schedule.check
  checkRules 0 config.adaptation.rules

end Vivarium
