import Vivarium.Field.Step

/-!
# Readers of a field

Anybody may hold on to the published snapshot and to the announcement of the
generation, and look at them while the field runs. A look takes no time that
others could notice and changes nothing. Readers know nothing of one another:
they come in between the steps of the field as they like.
-/

namespace Vivarium

/-- What a reader looks at. -/
inductive Glance where
  | snapshot
  | status
  | generation

/-- What a reader sees. -/
inductive View where
  | snapshot (shown : Snapshot)
  | status (shown : Status)
  | announced (number : Nat)

namespace View

/-- Whether the view is one of the published snapshot. -/
def published : View → Bool
  | .snapshot _ => true
  | .status _ => true
  | .announced _ => false

/-- The generation that a view tells of. -/
def generation : View → Nat
  | .snapshot shown => shown.generation
  | .status shown => shown.generation
  | .announced number => number

end View

/-- What happens next: a party of the field takes a step, or a reader has a look. -/
inductive Event where
  | step (action : Action)
  | look (reader : Nat) (glance : Glance)

/-- A look: who had it, after which steps, and what there was to see. -/
structure Sighting where
  reader : Nat
  steps : List Action
  view : View

namespace Field

/-- What there is to see at a glance. -/
def view (field : Field) : Glance → View
  | .snapshot => .snapshot field.snapshot
  | .status => .status field.snapshot.status
  | .generation => .announced field.announced

/-- The looks that are had in the course of some events, after the steps already taken. -/
def sightings (field : Field) (taken : List Action) : List Event → List Sighting
  | [] => []
  | .step action :: rest => (field.step action).sightings (taken ++ [action]) rest
  | .look reader glance :: rest =>
      { reader, steps := taken, view := field.view glance } :: field.sightings taken rest

end Field

end Vivarium
