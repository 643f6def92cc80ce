import Vivarium.Json.Fields
import Vivarium.Descriptor.Offspring

/-!
# The written form of descriptors and bounds

A descriptor is written as an object whose member `kind` names the
architecture; the counts follow. Reading takes any order, and the array of kind
and counts as well. A range is an array of two.
-/

namespace Vivarium

open Json

namespace Kind

def toJson (kind : Kind) : Json :=
  .text kind.name

def ofJson (json : Json) : Option Kind := do
  Kind.all[← asName .direct (Kind.all.map Kind.name) json]?

end Kind

namespace Descriptor

def count (n : UInt32) : Json :=
  .nat n.toNat

def toJson : Descriptor → Json
  | .attention layers width heads =>
      .record [("kind", Kind.attention.toJson), ("layers", count layers), ("width", count width),
        ("heads", count heads)]
  | .recurrent layers width =>
      .record [("kind", Kind.recurrent.toJson), ("layers", count layers), ("width", count width)]
  | .convolutional layers width kernel =>
      .record [("kind", Kind.convolutional.toJson), ("layers", count layers),
        ("width", count width), ("kernel", count kernel)]

/-- A descriptor of a known architecture from the rest of its written form. -/
def ofRest (rest : Json) : Kind → Option Descriptor
  | .attention => do
      let fields ← Fields.of ["layers", "width", "heads"] rest
      return .attention (← fields.required "layers" asWord) (← fields.required "width" asWord)
        (← fields.required "heads" asWord)
  | .recurrent => do
      let fields ← Fields.of ["layers", "width"] rest
      return .recurrent (← fields.required "layers" asWord) (← fields.required "width" asWord)
  | .convolutional => do
      let fields ← Fields.of ["layers", "width", "kernel"] rest
      return .convolutional (← fields.required "layers" asWord) (← fields.required "width" asWord)
        (← fields.required "kernel" asWord)

def ofJson (manner : Manner) (json : Json) : Option Descriptor := do
  let (tag, rest) ← tagged "kind" json
  ofRest rest (← Kind.all[← asTag manner (Kind.all.map Kind.name) tag]?)

end Descriptor

namespace Span

def toJson (span : Span) : Json :=
  .array [Descriptor.count span.low, Descriptor.count span.high]

def ofJson (json : Json) : Option Span := do
  let (low, high) ← asPair asWord json
  return { low, high }

end Span

namespace Bounds

def toJson (bounds : Bounds) : Json :=
  .record
    [ ("layers", bounds.layers.toJson),
      ("width", bounds.width.toJson),
      ("heads", .array (bounds.heads.map Descriptor.count)),
      ("kernel", bounds.kernel.toJson),
      ("kinds", .array (bounds.kinds.map Kind.toJson)) ]

def ofJson (json : Json) : Option Bounds := do
  let fields ← Fields.of ["layers", "width", "heads", "kernel", "kinds"] json
  let standard : Bounds := {}
  return {
    layers := ← fields.withDefault "layers" standard.layers Span.ofJson
    width := ← fields.withDefault "width" standard.width Span.ofJson
    heads := ← fields.withDefault "heads" standard.heads (asList asWord)
    kernel := ← fields.withDefault "kernel" standard.kernel Span.ofJson
    kinds := ← fields.withDefault "kinds" standard.kinds (asList Kind.ofJson) }

end Bounds

end Vivarium
