import Vivarium.Descriptor.Change

/-!
# Descriptors of offspring

A child takes one of three ways. With the bias chance it repeats the pattern
recalled from successful lineages, if there is one; otherwise, with the
structural chance, it takes the parent's descriptor with one change; otherwise
it copies the parent. The bias is drawn even when nothing can be recalled, so
that what follows does not depend on it.

The change is uniform over the kinds of change that the parent's architecture
admits. Its sign is drawn in any case, and first.
-/

namespace Vivarium

/-- The chances of the ways a child may take. -/
structure MutationConfig where
  bias : Float32 := 0.2
  structural : Float32 := 0.7

/-- The way a child took. -/
inductive Origin where
  | recalled
  | structural (change : Change)
  | copy
  deriving DecidableEq, Repr

/-- A child's descriptor and how it came about. -/
structure Offspring where
  descriptor : Descriptor
  origin : Origin
  deriving DecidableEq, Repr

namespace Random.Draw

/-- How many kinds of change an architecture admits. -/
def changeKinds : Kind → UInt32
  | .recurrent => 2
  | _ => 3

/-- One half, the chance of either sign. -/
def evenChance : Float32 := 0.5

/-- A change that the parent's architecture admits. -/
def change (parent : Descriptor) (bounds : Bounds) : Draw Change := do
  let sign : Int := if ← chance evenChance then 1 else -1
  let which ← between 0 (changeKinds parent.kind - 1)
  if which = 0 then return .layers sign
  else if which = 1 then return .width ((← choose WidthScale.all).getD .keep)
  else match parent with
    | .attention _ _ heads => return .heads ((← choose bounds.heads).getD heads)
    | _ => return .kernel (2 * sign)

/-- A child of the parent. -/
def offspring (config : MutationConfig) (bounds : Bounds) (recalled : Option Descriptor)
    (parent : Descriptor) : Draw Offspring := do
  -- The chance is drawn even where there is nothing to recall.
  match ← chance config.bias, recalled with
  | true, some pattern => return { descriptor := ← bounds.clamp pattern, origin := .recalled }
  | _, _ =>
      if ← chance config.structural then
        let change ← change parent bounds
        return { descriptor := ← change.apply bounds parent, origin := .structural change }
      else return { descriptor := parent, origin := .copy }

end Random.Draw

end Vivarium
