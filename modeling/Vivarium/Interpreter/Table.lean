import Vivarium.Interpreter

/-!
# Interpreters given by a table

A field can be tried out with measurements that are written down beforehand. A
row says for which descriptors it speaks and what is measured of them, and may
let resonance follow the mood of the context. The first row that speaks for a
descriptor decides; a descriptor that no row speaks for is middling.
-/

namespace Vivarium

/-- A row of measurements, for the descriptors that have what it names. -/
structure Row where
  components : Components
  gain : Float32 := 0
  kind : Option Kind := none
  layers : Option UInt32 := none
  width : Option UInt32 := none

namespace Row

/-- Whether a row speaks for a descriptor. -/
def fits (row : Row) (d : Descriptor) : Bool :=
  row.kind.all (· == d.kind) && row.layers.all (· == d.layers) && row.width.all (· == d.width)

/-- What a row measures in a context. -/
def measure (row : Row) (context : Context) : Components :=
  { row.components with
    resonance := row.components.resonance + row.gain * context.meanAffect }

end Row

/-- What is measured where no row speaks. -/
def Components.middling : Components :=
  { resonance := 0, entropy := 0.5, surprise := 0 }

/-- The interpreter of a table. -/
def Interpreter.ofTable (rows : List Row) : Interpreter := fun d context =>
  match rows.find? (·.fits d) with
  | some row => row.measure context
  | none => .middling

end Vivarium
