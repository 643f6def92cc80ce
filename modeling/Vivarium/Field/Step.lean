import Vivarium.Field.Basic
import Vivarium.Population.Tick

/-!
# The steps of a running field

Every step is atomic and belongs to one party: an observer who pushes or
closes the feed, the worker, the dispatcher, or whoever asks the field to stop.
A step that its party cannot take now changes nothing, so any sequence of
actions is a run, and all runs together are all the ways in which the parties
can get in between one another.

The worker takes one step for each thing that others can see: the batch leaves
the feed, the tick is computed, its snapshot is published, its entries are in
the log, each signal is in the queue, the generation is announced. A request to
stop is heard only between ticks. The signal queue is closed once the worker
has stopped, and then the dispatcher, having drained it, finishes.

The dispatcher wakes up, drains the queue, and, if it found nothing, asks
whether the queue is closed, in three steps: others may come in between.
-/

namespace Vivarium

/-- One atomic step of one party. -/
inductive Action where
  | observe (event : Observation)
  | closeFeed
  | work (now : Timestamp)
  | dispatch (sink : Sink)
  | requestStop
  | closeSignals

namespace Field

/-- The worker takes a batch out of the feed, or stops if it has been asked to. -/
def begin (field : Field) : Field :=
  -- Nowhere else does the worker hear of a request to stop.
  if field.stopping then { field with work := .stopped }
  else
    let (batch, feed) := field.feed.drain field.population.config.population.batchSize
    { field with feed, work := .drained batch }

/-- The worker computes a tick from the batch it took. -/
def compute (field : Field) (batch : List Observation) : Field :=
  -- The feed may have been closed since the batch left it.
  match field.population.tick (field.feed.verdict batch) with
  | .ok (report, population) => { field with population, work := .computed report }
  | .error fault => { field with work := .faulted fault }

/-- The worker publishes the snapshot of a tick. -/
def publish (field : Field) (report : TickReport) : Field :=
  { field with snapshot := report.snapshot, work := .published report }

/-- The worker asks the emitter and writes the tick with its signals to the log. -/
def settle (field : Field) (report : TickReport) (now : Timestamp) : Field :=
  let (signals, emitter) := field.emitter.evaluate report.snapshot.metrics now
  let field := field.record (report.entries ++ signals.map .signal)
  { field with emitter, work := .sending report.snapshot.generation signals }

/-- The worker sends the next signal, or announces the generation after the last. -/
def send (field : Field) (generation : Nat) : List Signal → Field
  | [] => { field with announced := generation, work := .idle }
  | signal :: rest =>
      { field with
        emitted := field.emitted + 1
        signals := (field.signals.push signal).2
        work := .sending generation rest }

def workStep (field : Field) (now : Timestamp) : Field :=
  match field.work with
  | .idle => field.begin
  | .drained batch => field.compute batch
  | .computed report => field.publish report
  | .published report => field.settle report now
  | .sending generation signals => field.send generation signals
  | .faulted _ => field
  | .stopped => field

/-- The dispatcher takes all signals out of the queue. -/
def collect (field : Field) : Field :=
  let (batch, signals) := field.signals.drainAll
  { field with signals, dispatch := if batch.isEmpty then .undecided else .applying batch }

/-- The dispatcher gives a signal to the sink and writes down what became of it. -/
def deliver (field : Field) (sink : Sink) (signal : Signal) : Field :=
  let outcome := sink.outcome signal
  let field := field.record [.outcome outcome]
  { field with
    applied := field.applied + if outcome.success then 1 else 0
    failed := field.failed + if outcome.success then 0 else 1
    delivered := field.delivered ++ [signal] }

def dispatchStep (field : Field) (sink : Sink) : Field :=
  match field.dispatch with
  | .waiting => if field.signals.ready then { field with dispatch := .awake } else field
  | .awake => field.collect
  -- What was pushed since the queue was drained is not looked at again before the decision.
  | .undecided =>
      { field with dispatch := if field.signals.closed then .finished else .waiting }
  | .applying [] => { field with dispatch := .waiting }
  | .applying (signal :: rest) =>
      { field.deliver sink signal with dispatch := .applying rest }
  | .finished => field

/-- Closes the signal queue once the worker has stopped. -/
def closeSignals (field : Field) : Field :=
  match field.work with
  | .stopped => { field with signals := field.signals.close }
  | _ => field

def step (field : Field) : Action → Field
  | .observe event => { field with feed := (field.feed.push event).2 }
  | .closeFeed => { field with feed := field.feed.close }
  | .work now => field.workStep now
  | .dispatch sink => field.dispatchStep sink
  | .requestStop => { field with stopping := true }
  | .closeSignals => field.closeSignals

def run (field : Field) (actions : List Action) : Field :=
  actions.foldl step field

end Field

end Vivarium
