import Vivarium.Snapshot

/-!
# Conditions

A condition asks something of the figures of a tick. Every comparison is
strict, so a figure on the limit meets neither of the two opposite conditions.
Conditions nest: all of none holds, any of none does not.
-/

namespace Vivarium

/-- A question about the figures of a tick. -/
inductive Condition where
  | meanFitnessBelow (limit : Float32)
  | meanFitnessAbove (limit : Float32)
  | diversityBelow (limit : Float32)
  | diversityAbove (limit : Float32)
  | populationBelow (limit : Nat)
  | populationAbove (limit : Nat)
  | extinct
  | degraded
  | dissonanceAbove (limit : Float32)
  | all (conditions : List Condition)
  | any (conditions : List Condition)

namespace Condition

mutual

/-- Whether a condition holds for the figures of a tick and the dissonance felt. -/
def holds (metrics : Metrics) (dissonance : Float32) : Condition → Bool
  | .meanFitnessBelow limit => metrics.meanFitness < limit
  | .meanFitnessAbove limit => limit < metrics.meanFitness
  | .diversityBelow limit => metrics.diversity < limit
  | .diversityAbove limit => limit < metrics.diversity
  | .populationBelow limit => metrics.population < limit
  | .populationAbove limit => limit < metrics.population
  | .extinct => metrics.extinct
  | .degraded => metrics.degraded
  | .dissonanceAbove limit => limit < dissonance
  | .all conditions => holdsAll metrics dissonance conditions
  | .any conditions => holdsAny metrics dissonance conditions

/-- Whether every one of some conditions holds. -/
def holdsAll (metrics : Metrics) (dissonance : Float32) : List Condition → Bool
  | [] => true
  | c :: rest => holds metrics dissonance c && holdsAll metrics dissonance rest

/-- Whether one of some conditions holds. -/
def holdsAny (metrics : Metrics) (dissonance : Float32) : List Condition → Bool
  | [] => false
  | c :: rest => holds metrics dissonance c || holdsAny metrics dissonance rest

end

end Condition

end Vivarium
