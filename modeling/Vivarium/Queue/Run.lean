import Vivarium.Queue

/-!
# Runs of a queue

Producers and consumers share a queue behind a lock, and whoever holds the lock
uses the queue once: pushes an item, drains, or closes. The queue does not see
whose use it is, so whatever way any number of them get in between one another
is a list of uses, and every list of uses is such a way.

What a run puts in and hands out is read off the answers of the queue: an item
has been accepted if the push said so, and what has been drained is what the
drains gave, one after another.
-/

namespace Vivarium

/-- One use of a queue by whoever holds its lock. -/
inductive Use (α : Type) where
  | push (item : α)
  | drain (max : Nat)
  | close

namespace Queue

def use (queue : Queue α) : Use α → Queue α
  | .push item => (queue.push item).2
  | .drain max => (queue.drain max).2
  | .close => queue.close

def useAll (queue : Queue α) (uses : List (Use α)) : Queue α :=
  uses.foldl use queue

/-- The items that a use puts in. -/
def intake (queue : Queue α) : Use α → List α
  | .push item => if (queue.push item).1 then [item] else []
  | .drain _ => []
  | .close => []

/-- The items that a use hands out. -/
def output (queue : Queue α) : Use α → List α
  | .push _ => []
  | .drain max => (queue.drain max).1
  | .close => []

/-- What is seen of each use of a run, in order. -/
def seen (see : Queue α → Use α → List α) (queue : Queue α) : List (Use α) → List α
  | [] => []
  | use :: rest => see queue use ++ (queue.use use).seen see rest

/-- The items accepted in the course of a run. -/
def accepted (queue : Queue α) (uses : List (Use α)) : List α :=
  queue.seen intake uses

/-- The items drained in the course of a run. -/
def drained (queue : Queue α) (uses : List (Use α)) : List α :=
  queue.seen output uses

end Queue

end Vivarium
