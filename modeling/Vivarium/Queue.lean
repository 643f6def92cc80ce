import Vivarium.Fault

/-!
# Queues that drop their oldest

The field and the world outside are connected by queues that make nobody wait.
A push into a full queue pushes the oldest item out at the other end, and the
queue counts how many items went that way. Once closed a queue takes nothing
more in, and what it holds can still be drained.

The room of a queue is set aside before anything is pushed, so a capacity may be
too large to be had.
-/

namespace Vivarium

/-- A bounded queue, oldest item first. -/
structure Queue (α : Type) where
  capacity : Nat
  items : List α := []
  closed : Bool := false
  dropped : Nat := 0
  deriving DecidableEq, Repr

namespace Queue

/-- An empty queue; there is room for one item at least. -/
def new (capacity : Nat) : Queue α :=
  { capacity := max capacity 1 }

/-- An empty queue with room set aside for items of `size` bytes each. -/
def reserve (size capacity : Nat) : Except Fault (Queue α) := do
  setAside size (max capacity 1)
  return new capacity

/-- Whether the next push drops an item. -/
def full (queue : Queue α) : Bool :=
  queue.capacity ≤ queue.items.length

/-- Whether someone who waits for an item, or for the end, need not wait. -/
def ready (queue : Queue α) : Bool :=
  !queue.items.isEmpty || queue.closed

/-- Puts an item at the end, and says whether the queue took it. -/
def push (queue : Queue α) (item : α) : Bool × Queue α :=
  if queue.closed then (false, queue)
  -- The new item is always taken; it is the oldest that makes room.
  else if queue.full then
    (true, { queue with items := queue.items.tail ++ [item], dropped := queue.dropped + 1 })
  else (true, { queue with items := queue.items ++ [item] })

/-- Puts items at the end one after another. -/
def pushAll (queue : Queue α) (items : List α) : Queue α :=
  items.foldl (fun queue item => (queue.push item).2) queue

/-- Takes at most `max` items out, oldest first. -/
def drain (queue : Queue α) (max : Nat) : List α × Queue α :=
  (queue.items.take max, { queue with items := queue.items.drop max })

def drainAll (queue : Queue α) : List α × Queue α :=
  (queue.items, { queue with items := [] })

def close (queue : Queue α) : Queue α :=
  { queue with closed := true }

theorem drain_append (queue : Queue α) (max : Nat) :
    (queue.drain max).1 ++ (queue.drain max).2.items = queue.items :=
  List.take_append_drop max queue.items

theorem push_of_closed {queue : Queue α} (h : queue.closed = true) (item : α) :
    queue.push item = (false, queue) := by
  simp [push, h]

theorem push_of_open {queue : Queue α} (h : queue.closed = false) (item : α) :
    (queue.push item).1 = true := by
  rw [push, h]
  by_cases hfull : queue.full = true
  · simp [hfull]
  · simp [hfull]

end Queue

end Vivarium
