import Vivarium.Interpreter

/-!
# Fitness

Fitness weighs three terms, each in the unit interval: resonance as measured,
closeness of the entropy to a target, and the absence of surprise. Whatever an
interpreter returns, the result is a number of the unit interval: a component
that is not finite, or a sum that is not, counts as a fault with fitness zero.
-/

namespace Vivarium

open Number

/-- The weights of the three terms. -/
structure Weights where
  resonance : Float32
  entropy : Float32
  surprise : Float32

namespace Weights

/-- The weights that are used unless others are given. -/
def standard : Weights :=
  { resonance := 0.5, entropy := 0.25, surprise := 0.25 }

def sum (weights : Weights) : Float32 :=
  weights.resonance + weights.entropy + weights.surprise

end Weights

/-- How fitness is weighed. -/
structure FitnessConfig where
  weights : Weights := .standard
  targetEntropy : Float32 := 0.5

/-- A fitness with its weighted terms. -/
structure Score where
  fitness : Float32
  resonanceTerm : Float32
  entropyTerm : Float32
  surpriseTerm : Float32
  fault : Bool

/-- The score of a faulty evaluation. -/
def Score.faulty : Score :=
  { fitness := 0, resonanceTerm := 0, entropyTerm := 0, surpriseTerm := 0, fault := true }

/-- Whether all three components are finite. -/
def Components.finite (c : Components) : Bool :=
  c.resonance.isFinite && c.entropy.isFinite && c.surprise.isFinite

namespace FitnessConfig

def score (config : FitnessConfig) (c : Components) : Score :=
  let resonanceTerm := config.weights.resonance * clamp 0 1 c.resonance
  let entropyTerm :=
    config.weights.entropy * clamp 0 1 (1 - (c.entropy - config.targetEntropy).abs)
  let surpriseTerm := config.weights.surprise * clamp 0 1 (1 / (1 + larger c.surprise 0))
  -- Weights that nobody has checked may still take the sum out of range, or to no number at all.
  let fitness := resonanceTerm + entropyTerm + surpriseTerm
  if c.finite && fitness.isFinite then
    { fitness := clamp 0 1 fitness, resonanceTerm, entropyTerm, surpriseTerm, fault := false }
  else .faulty

/-- The score of a descriptor in a context. -/
def evaluate (config : FitnessConfig) (interpret : Interpreter) (context : Context)
    (d : Descriptor) : Score :=
  config.score (interpret d context)

end FitnessConfig

end Vivarium
