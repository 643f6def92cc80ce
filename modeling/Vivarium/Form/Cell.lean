import Vivarium.Form.Descriptor
import Vivarium.Form.Signal
import Vivarium.Lineage
import Vivarium.Snapshot

/-!
# The written form of cells, records and snapshots

Every field must be there, except that the parent of a cell may be left out of
an object. Records of the audit log are held while their tag is looked for, so
the descriptors in them are read as parts of a held value.
-/

namespace Vivarium

open Json

/-- A natural number of 32 bits, as wide as lineages are deep. -/
def Json.asDepth : Json → Option Nat :=
  asNatBelow UInt32.size

namespace Cell

def toJson (cell : Cell) : Json :=
  .record
    [ ("id", .nat cell.id),
      ("descriptor", cell.descriptor.toJson),
      ("fitness", .single cell.fitness),
      ("age", .nat cell.age),
      ("alive", .bool cell.alive),
      ("parent", .option .nat cell.parent),
      ("lineage_depth", .nat cell.lineageDepth),
      ("born_tick", .nat cell.bornTick),
      ("fitness_sum", .double cell.fitnessSum),
      ("evaluations", .nat cell.evaluations) ]

def ofJson (json : Json) : Option Cell := do
  let fields ← Fields.of
    [ "id", "descriptor", "fitness", "age", "alive", "parent", "lineage_depth", "born_tick",
      "fitness_sum", "evaluations" ] json
  return {
    id := ← fields.required "id" asNat
    descriptor := ← fields.required "descriptor" (Descriptor.ofJson .direct)
    fitness := ← fields.required "fitness" asSingle
    age := ← fields.required "age" asNat
    alive := ← fields.required "alive" asBool
    parent := ← fields.optional "parent" asNat
    lineageDepth := ← fields.required "lineage_depth" asDepth
    bornTick := ← fields.required "born_tick" asNat
    fitnessSum := ← fields.required "fitness_sum" asDouble
    evaluations := ← fields.required "evaluations" asNat }

end Cell

namespace Components

def toJson (c : Components) : Json :=
  .record
    [ ("semantic_resonance", .single c.resonance),
      ("entropy", .single c.entropy),
      ("surprise", .single c.surprise) ]

def ofJson (json : Json) : Option Components := do
  let fields ← Fields.of ["semantic_resonance", "entropy", "surprise"] json
  return {
    resonance := ← fields.required "semantic_resonance" asSingle
    entropy := ← fields.required "entropy" asSingle
    surprise := ← fields.required "surprise" asSingle }

end Components

namespace Score

def toJson (score : Score) : Json :=
  .record
    [ ("fitness", .single score.fitness),
      ("resonance_term", .single score.resonanceTerm),
      ("entropy_term", .single score.entropyTerm),
      ("surprise_term", .single score.surpriseTerm),
      ("fault", .bool score.fault) ]

def ofJson (json : Json) : Option Score := do
  let fields ← Fields.of
    ["fitness", "resonance_term", "entropy_term", "surprise_term", "fault"] json
  return {
    fitness := ← fields.required "fitness" asSingle
    resonanceTerm := ← fields.required "resonance_term" asSingle
    entropyTerm := ← fields.required "entropy_term" asSingle
    surpriseTerm := ← fields.required "surprise_term" asSingle
    fault := ← fields.required "fault" asBool }

end Score

namespace FitnessRecord

def members (record : FitnessRecord) : List (String × Json) :=
  [ ("tick", .nat record.tick),
    ("cell_id", .nat record.cell),
    ("descriptor", record.descriptor.toJson),
    ("score", record.score.toJson) ]

def toJson (record : FitnessRecord) : Json :=
  .record record.members

def ofJson (manner : Manner) (json : Json) : Option FitnessRecord := do
  let fields ← Fields.of ["tick", "cell_id", "descriptor", "score"] json
  return {
    tick := ← fields.required "tick" asNat
    cell := ← fields.required "cell_id" asNat
    descriptor := ← fields.required "descriptor" (Descriptor.ofJson manner)
    score := ← fields.required "score" Score.ofJson }

end FitnessRecord

namespace LineageRecord

def members (record : LineageRecord) : List (String × Json) :=
  [ ("descriptor", record.descriptor.toJson),
    ("survival_age", .nat record.survivalAge),
    ("mean_fitness", .single record.meanFitness),
    ("observations", .nat record.observations),
    ("sequence", .nat record.sequence) ]

def toJson (record : LineageRecord) : Json :=
  .record record.members

def ofJson (manner : Manner) (json : Json) : Option LineageRecord := do
  let fields ← Fields.of
    ["descriptor", "survival_age", "mean_fitness", "observations", "sequence"] json
  return {
    descriptor := ← fields.required "descriptor" (Descriptor.ofJson manner)
    survivalAge := ← fields.required "survival_age" asNat
    meanFitness := ← fields.required "mean_fitness" asSingle
    observations := ← fields.required "observations" asNat
    sequence := ← fields.required "sequence" asNat }

end LineageRecord

namespace Metrics

def toJson (m : Metrics) : Json :=
  .record
    [ ("tick", .nat m.tick),
      ("population", .nat m.population),
      ("mean_fitness", .single m.meanFitness),
      ("best_fitness", .single m.bestFitness),
      ("diversity", .single m.diversity),
      ("extinct", .bool m.extinct),
      ("degraded", .bool m.degraded),
      ("reseeded", .bool m.reseeded),
      ("births", .nat m.births),
      ("deaths", .nat m.deaths),
      ("culled", .nat m.culled),
      ("faults", .nat m.faults),
      ("mean_affect", .single m.meanAffect),
      ("affect_variance", .single m.affectVariance) ]

def ofJson (json : Json) : Option Metrics := do
  let fields ← Fields.of
    [ "tick", "population", "mean_fitness", "best_fitness", "diversity", "extinct", "degraded",
      "reseeded", "births", "deaths", "culled", "faults", "mean_affect", "affect_variance" ] json
  return {
    tick := ← fields.required "tick" asNat
    population := ← fields.required "population" asNat
    meanFitness := ← fields.required "mean_fitness" asSingle
    bestFitness := ← fields.required "best_fitness" asSingle
    diversity := ← fields.required "diversity" asSingle
    extinct := ← fields.required "extinct" asBool
    degraded := ← fields.required "degraded" asBool
    reseeded := ← fields.required "reseeded" asBool
    births := ← fields.required "births" asNat
    deaths := ← fields.required "deaths" asNat
    culled := ← fields.required "culled" asNat
    faults := ← fields.required "faults" asNat
    meanAffect := ← fields.required "mean_affect" asSingle
    affectVariance := ← fields.required "affect_variance" asSingle }

end Metrics

namespace Snapshot

def toJson (snapshot : Snapshot) : Json :=
  .record
    [ ("generation", .nat snapshot.generation),
      ("cells", .array (snapshot.cells.map Cell.toJson)),
      ("metrics", snapshot.metrics.toJson),
      ("extinction_events", .nat snapshot.extinctions),
      ("capacity_events", .nat snapshot.capacityEvents) ]

def ofJson (json : Json) : Option Snapshot := do
  let fields ← Fields.of
    ["generation", "cells", "metrics", "extinction_events", "capacity_events"] json
  return {
    generation := ← fields.required "generation" asNat
    cells := ← fields.required "cells" (asList Cell.ofJson)
    metrics := ← fields.required "metrics" Metrics.ofJson
    extinctions := ← fields.required "extinction_events" asNat
    capacityEvents := ← fields.required "capacity_events" asNat }

end Snapshot

namespace Status

def toJson (status : Status) : Json :=
  .record
    [ ("population", .nat status.population),
      ("mean_fitness", .single status.meanFitness),
      ("diversity", .single status.diversity),
      ("generation", .nat status.generation),
      ("extinction_events", .nat status.extinctions) ]

def ofJson (json : Json) : Option Status := do
  let fields ← Fields.of
    ["population", "mean_fitness", "diversity", "generation", "extinction_events"] json
  return {
    population := ← fields.required "population" asNat
    meanFitness := ← fields.required "mean_fitness" asSingle
    diversity := ← fields.required "diversity" asSingle
    generation := ← fields.required "generation" asNat
    extinctions := ← fields.required "extinction_events" asNat }

end Status

end Vivarium
