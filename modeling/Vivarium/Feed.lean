import Vivarium.Time.Timestamp
import Vivarium.Queue

/-!
# The observation feed

An observation is one event of the outside world: when it happened, who says
so, what was said, and how it felt, from minus one for stress to one for calm.
Whoever observes the world pushes observations into a queue, and every tick
polls it once. Polling takes two looks at the queue: one takes the batch out,
and the other, if there was nothing to take, asks whether the queue has been
closed. A feed may also have no batch to give for a reason of its own.

Observers push into a feed through any number of handles, any of them may close
it, and one poller polls it again and again. Each holds the lock of the queue
for one look at a time, and whose look comes next is nobody's to say. A poll
that finds something is over after one look. One that finds nothing looks again
to see whether the feed has been closed, and between its two looks it keeps
nobody out.
-/

namespace Vivarium

/-- One event of the outside world. -/
structure Observation where
  timestamp : Timestamp
  source : String
  payload : String := ""
  affect : Float32 := 0

/-- The bytes that an observation takes up where room is set aside for it. -/
def Observation.footprint : Nat := 64

/-- Why a feed gave no batch. -/
inductive FeedError where
  | unavailable (reason : String)
  | closed
  deriving DecidableEq, Repr

def FeedError.message : FeedError → String
  | .unavailable reason => "Observation feed unavailable: " ++ reason
  | .closed => "Observation feed closed"

/-- What polling a feed gives. -/
abbrev Poll := Except FeedError (List Observation)

/-! ## Polling -/

namespace Queue

/-- What a poll that took `batch` gives, as the queue now stands. -/
def verdict (queue : Queue Observation) (batch : List Observation) : Poll :=
  if batch.isEmpty && queue.closed then .error .closed else .ok batch

/-- Polls a queue that nobody else touches meanwhile. -/
def poll (queue : Queue Observation) (max : Nat) : Poll × Queue Observation :=
  let (batch, rest) := queue.drain max
  (rest.verdict batch, rest)

end Queue

/-- The observations that a poll hands out. -/
def Poll.batch : Poll → List Observation
  | .ok batch => batch
  | .error _ => []

/-- What polling gives where nobody observes anything. -/
def silence : Poll :=
  .ok []

/-! ## A feed in use -/

/-- One look at the queue of a feed, by an observer or by the poller. -/
inductive Look where
  | observe (event : Observation)
  | close
  | poll (max : Nat)

/-- A feed in use, and whether its poller has found nothing and has yet to look again. -/
structure Channel where
  queue : Queue Observation
  asking : Bool := false

namespace Channel

/-- A feed that nobody has used yet. -/
def fresh (capacity : Nat) : Channel :=
  { queue := .new capacity }

/-- What a look gives, if it ends a poll, and the channel after it. -/
def look (channel : Channel) : Look → Option Poll × Channel
  | .observe event => (none, { channel with queue := (channel.queue.push event).2 })
  | .close => (none, { channel with queue := channel.queue.close })
  | .poll max =>
      if channel.asking then
        (some (channel.queue.verdict []), { channel with asking := false })
      else
        let (batch, queue) := channel.queue.drain max
        if batch.isEmpty then (none, { queue, asking := true })
        else (some (queue.verdict batch), { queue })

/-- What the poll gives that a look ends. -/
def answer (channel : Channel) (look : Look) : Option Poll :=
  (channel.look look).1

def next (channel : Channel) (look : Look) : Channel :=
  (channel.look look).2

def after (channel : Channel) (looks : List Look) : Channel :=
  looks.foldl next channel

/-- What the polls give that come to their end in the course of some looks. -/
def answers (channel : Channel) : List Look → List Poll
  | [] => []
  | look :: rest => (channel.answer look).toList ++ (channel.next look).answers rest

end Channel

end Vivarium
