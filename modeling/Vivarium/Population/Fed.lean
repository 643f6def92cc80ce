import Vivarium.Feed
import Vivarium.Population.Tick

/-!
# A population at its feed

Observers push into a feed and may close it while a population ticks. A tick
begins with a poll, which takes one look at the queue or two, and what comes
after its last look concerns nothing that the observers can reach. So the
population takes part in what happens only by its looks, and a tick is done with
the look that ends its poll.
-/

namespace Vivarium

/-- What happens next: an observer pushes or closes, or the population takes its next look. -/
inductive Move where
  | push (event : Observation)
  | close
  | look

/-- A tick, and the poll that it was done on. -/
structure PolledTick where
  poll : Poll
  before : Population
  report : TickReport
  after : Population

/-- The observations that a tick ingests. -/
def PolledTick.ingested (tick : PolledTick) : List Observation :=
  tick.poll.batch.take tick.before.config.population.batchSize

/-- A population and the feed that it polls. -/
structure Fed where
  population : Population
  channel : Channel

namespace Fed

/-- A population at a feed that nobody has used yet. -/
def start (population : Population) (capacity : Nat) : Fed :=
  { population, channel := .fresh capacity }

/-- The look at the queue that a move is; a population polls for as much as it ticks on. -/
def lookOf (fed : Fed) : Move → Look
  | .push event => .observe event
  | .close => .close
  | .look => .poll fed.population.config.population.batchSize

/-- Makes a move, and says which tick it brought to its end, if any. -/
def step (fed : Fed) (move : Move) : Except Fault (Option PolledTick × Fed) := do
  let (answer, channel) := fed.channel.look (fed.lookOf move)
  match answer with
  | none => return (none, { fed with channel })
  | some poll =>
      let (report, after) ← fed.population.tick poll
      return (
        some { poll, before := fed.population, report, after },
        { population := after, channel })

end Fed

end Vivarium
