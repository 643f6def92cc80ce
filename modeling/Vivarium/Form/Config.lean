import Vivarium.Config.Basic
import Vivarium.Form.Cell

/-!
# The written form of configurations

Every section and every setting may be left out and then takes its standard
value; the three weights alone go together. Writing leaves nothing out.
-/

namespace Vivarium

open Json

namespace PopulationConfig

def toJson (config : PopulationConfig) : Json :=
  .record
    [ ("initial_size", .nat config.initialSize),
      ("max_size", .nat config.maxSize),
      ("batch_size", .nat config.batchSize) ]

def ofJson (json : Json) : Option PopulationConfig := do
  let fields ← Fields.of ["initial_size", "max_size", "batch_size"] json
  let standard : PopulationConfig := {}
  return {
    initialSize := ← fields.withDefault "initial_size" standard.initialSize asNat
    maxSize := ← fields.withDefault "max_size" standard.maxSize asNat
    batchSize := ← fields.withDefault "batch_size" standard.batchSize asNat }

end PopulationConfig

namespace SelectionConfig

def toJson (config : SelectionConfig) : Json :=
  .record
    [("death_threshold", .single config.death), ("birth_threshold", .single config.birth)]

def ofJson (json : Json) : Option SelectionConfig := do
  let fields ← Fields.of ["death_threshold", "birth_threshold"] json
  let standard : SelectionConfig := {}
  return {
    death := ← fields.withDefault "death_threshold" standard.death asSingle
    birth := ← fields.withDefault "birth_threshold" standard.birth asSingle }

end SelectionConfig

namespace Weights

def toJson (weights : Weights) : Json :=
  .record
    [ ("resonance", .single weights.resonance),
      ("entropy", .single weights.entropy),
      ("surprise", .single weights.surprise) ]

/-- Weights from their written form, which has all three. -/
def ofJson (json : Json) : Option Weights := do
  let fields ← Fields.of ["resonance", "entropy", "surprise"] json
  return {
    resonance := ← fields.required "resonance" asSingle
    entropy := ← fields.required "entropy" asSingle
    surprise := ← fields.required "surprise" asSingle }

end Weights

namespace FitnessConfig

def toJson (config : FitnessConfig) : Json :=
  .record
    [("weights", config.weights.toJson), ("target_entropy", .single config.targetEntropy)]

def ofJson (json : Json) : Option FitnessConfig := do
  let fields ← Fields.of ["weights", "target_entropy"] json
  let standard : FitnessConfig := {}
  return {
    weights := ← fields.withDefault "weights" standard.weights Weights.ofJson
    targetEntropy := ← fields.withDefault "target_entropy" standard.targetEntropy asSingle }

end FitnessConfig

namespace MutationConfig

def toJson (config : MutationConfig) : Json :=
  .record
    [ ("bias_probability", .single config.bias),
      ("structural_probability", .single config.structural) ]

def ofJson (json : Json) : Option MutationConfig := do
  let fields ← Fields.of ["bias_probability", "structural_probability"] json
  let standard : MutationConfig := {}
  return {
    bias := ← fields.withDefault "bias_probability" standard.bias asSingle
    structural := ← fields.withDefault "structural_probability" standard.structural asSingle }

end MutationConfig

namespace LineageConfig

def toJson (config : LineageConfig) : Json :=
  .record
    [ ("capacity", .nat config.capacity),
      ("survival_age_threshold", .nat config.survivalAge),
      ("success_cutoff", .single config.cutoff) ]

def ofJson (json : Json) : Option LineageConfig := do
  let fields ← Fields.of ["capacity", "survival_age_threshold", "success_cutoff"] json
  let standard : LineageConfig := {}
  return {
    capacity := ← fields.withDefault "capacity" standard.capacity asNat
    survivalAge := ← fields.withDefault "survival_age_threshold" standard.survivalAge asNat
    cutoff := ← fields.withDefault "success_cutoff" standard.cutoff asSingle }

end LineageConfig

namespace AdaptationConfig

def toJson (config : AdaptationConfig) : Json :=
  .record
    [("rules", .array (config.rules.map Rule.toJson)), ("dissonance_window", .nat config.window)]

def ofJson (json : Json) : Option AdaptationConfig := do
  let fields ← Fields.of ["rules", "dissonance_window"] json
  let standard := AdaptationConfig.standard
  return {
    rules := ← fields.withDefault "rules" standard.rules (asList Rule.ofJson)
    window := ← fields.withDefault "dissonance_window" standard.window asNat }

end AdaptationConfig

namespace ScheduleConfig

def toJson (config : ScheduleConfig) : Json :=
  .record
    [ ("period_ms", .nat config.period),
      ("feed_capacity", .nat config.feedCapacity),
      ("signal_capacity", .nat config.signalCapacity) ]

def ofJson (json : Json) : Option ScheduleConfig := do
  let fields ← Fields.of ["period_ms", "feed_capacity", "signal_capacity"] json
  let standard : ScheduleConfig := {}
  return {
    period := ← fields.withDefault "period_ms" standard.period asNat
    feedCapacity := ← fields.withDefault "feed_capacity" standard.feedCapacity asNat
    signalCapacity := ← fields.withDefault "signal_capacity" standard.signalCapacity asNat }

end ScheduleConfig

namespace AuditConfig

def toJson (config : AuditConfig) : Json :=
  .record
    [ ("path", .option .text config.path),
      ("replay_entries", .nat config.replayEntries),
      ("record_observations", .bool config.recordObservations),
      ("record_fitness", .bool config.recordFitness) ]

def ofJson (json : Json) : Option AuditConfig := do
  let fields ← Fields.of
    ["path", "replay_entries", "record_observations", "record_fitness"] json
  return {
    path := ← fields.withDefault "path" none (asOption asText)
    replayEntries := ← fields.withDefault "replay_entries" 0 asNat
    recordObservations := ← fields.withDefault "record_observations" true asBool
    recordFitness := ← fields.withDefault "record_fitness" true asBool }

end AuditConfig

namespace FieldConfig

def toJson (config : FieldConfig) : Json :=
  .record
    [ ("population", config.population.toJson),
      ("selection", config.selection.toJson),
      ("fitness", config.fitness.toJson),
      ("mutation", config.mutation.toJson),
      ("bounds", config.bounds.toJson),
      ("meta", config.lineage.toJson),
      ("adaptation", config.adaptation.toJson),
      ("schedule", config.schedule.toJson),
      ("audit", config.audit.toJson),
      ("random_seed", .option .nat config.seed) ]

def ofJson (json : Json) : Option FieldConfig := do
  let fields ← Fields.of
    [ "population", "selection", "fitness", "mutation", "bounds", "meta", "adaptation",
      "schedule", "audit", "random_seed" ] json
  let standard : FieldConfig := {}
  return {
    population := ← fields.withDefault "population" standard.population PopulationConfig.ofJson
    selection := ← fields.withDefault "selection" standard.selection SelectionConfig.ofJson
    fitness := ← fields.withDefault "fitness" standard.fitness FitnessConfig.ofJson
    mutation := ← fields.withDefault "mutation" standard.mutation MutationConfig.ofJson
    bounds := ← fields.withDefault "bounds" standard.bounds Bounds.ofJson
    lineage := ← fields.withDefault "meta" standard.lineage LineageConfig.ofJson
    adaptation := ← fields.withDefault "adaptation" standard.adaptation AdaptationConfig.ofJson
    schedule := ← fields.withDefault "schedule" standard.schedule ScheduleConfig.ofJson
    audit := ← fields.withDefault "audit" standard.audit AuditConfig.ofJson
    seed := ← fields.withDefault "random_seed" none (asOption asNat) }

end FieldConfig

end Vivarium
