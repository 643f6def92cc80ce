import Vivarium.Context
import Vivarium.Descriptor.Basic

/-!
# Interpreters

An interpreter turns a descriptor and a context into three measurements: how
much the cell resonates with the context, how disordered its output is, and
how surprised it was. It is a function and nothing else, so a tick measures
equal descriptors equally.

The interpreter of the field gives every descriptor a fixed direction in the
common space. Resonance is the cosine to the context, moved into the unit
interval. Disorder is the entropy of a softmax that gets sharper with depth.
Surprise is the squared error of a predicted affect, over the capacity that the
width affords; a width of one affords none.
-/

namespace Vivarium

open Number

/-- What is measured of a cell. -/
structure Components where
  resonance : Float32
  entropy : Float32
  surprise : Float32

/-- A way to measure. -/
abbrev Interpreter := Descriptor → Context → Components

namespace Resonance

def single (n : UInt32) : Float32 :=
  n.toFloat32

/-- The phase of an architecture and the count that mixes its second wave. -/
def wave : Descriptor → Float32 × Float32
  | .attention _ _ heads => (0.3, single heads)
  | .recurrent _ _ => (1.1, 1)
  | .convolutional _ _ kernel => (2.2, single kernel)

def firstStep : Float32 := 0.618034

def secondStep : Float32 := 0.37

def half : Float32 := 0.5

/-- The entry of a descriptor's direction at a position counted from one. -/
def entry (d : Descriptor) (position : Float32) : Float32 :=
  let (phase, mix) := wave d
  (position * firstStep * single d.layers + (single d.width).log2 * half + phase).sin +
    half * (position * mix * secondStep + phase).cos

def direction (d : Descriptor) : Embedding :=
  Embedding.normalize <| Vector.ofFn fun (i : Fin dimensions) => entry d (Float32.ofNat i + 1)

/-- How sharp a descriptor's softmax is. -/
def sharpness : Descriptor → Float32
  | .attention layers _ heads => (single heads * single layers).sqrt
  | .recurrent layers _ => (single layers).sqrt
  | .convolutional layers _ kernel => (single kernel / 3 * single layers).sqrt

/-- The entropy of the softmax of some logits, over its largest value. -/
def entropy (logits : Embedding) : Float32 :=
  let top := logits.foldl larger (-1 / 0)
  let powers := logits.map fun logit => (logit - top).exp
  let total := powers.foldl (· + ·) 0
  let term (found power : Float32) : Float32 :=
    let p := power / total
    if 0 < p then found - p * p.log else found
  powers.foldl term 0 / (Float32.ofNat dimensions).log

/-- The interpreter of the field. -/
def interpret : Interpreter := fun d context =>
  let own := direction d
  let overlap := own.dot context.embedding
  let layers := single d.layers
  let logit (a b : Float32) : Float32 := 2 * sharpness d * (a + b)
  let error := (overlap * (1 + layers.log)).tanh - context.meanAffect
  { resonance := (overlap + 1) * half
    entropy := entropy (own.zipWith logit context.embedding)
    surprise := error * error / ((single d.width).log2 / 10) }

end Resonance

end Vivarium
