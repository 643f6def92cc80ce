import Vivarium.Field.Step

/-!
# The schedule of a field

A field that is left to itself ticks at once and then once a period, or once in
thirty years if the period is longer. Between two ticks there is time: the
worker brings its tick to an end, and then the dispatcher everything that is in
the queue. Stopping a field lets the tick in hand come to its end, closes the
queue behind it and waits for the dispatcher.

Each of these is a number of steps that is known beforehand: a tick takes five
and one for every signal, and there are no more signals than rules; the
dispatcher takes one for every signal and a few to notice the end.
-/

namespace Vivarium

namespace Field

/-- Lets the worker go on until it has no tick in hand. -/
def settleWork (now : Timestamp) : Nat → Field → Field
  | 0, field => field
  | fuel + 1, field =>
      if field.work.resting then field else settleWork now fuel (field.workStep now)

/-- The most steps that a tick takes. -/
def tickSteps (field : Field) : Nat :=
  field.emitter.config.rules.length + 6

/-- Brings the tick in hand to its end. -/
def finishTick (field : Field) (now : Timestamp) : Field :=
  settleWork now field.tickSteps field

/-- One tick from its beginning to its end. -/
def tick (field : Field) (now : Timestamp) : Field :=
  (field.workStep now).finishTick now

/-- Whether the dispatcher can do nothing now. -/
def quiet (field : Field) : Bool :=
  match field.dispatch with
  | .waiting => !field.signals.ready
  | .finished => true
  | _ => false

/-- Lets the dispatcher go on until there is nothing left for it to do. -/
def settleDispatch (sink : Sink) : Nat → Field → Field
  | 0, field => field
  | fuel + 1, field =>
      if field.quiet then field else settleDispatch sink fuel (field.dispatchStep sink)

/-- Lets the dispatcher deliver everything that waits. -/
def deliverAll (field : Field) (sink : Sink) : Field :=
  settleDispatch sink (field.signals.items.length + field.dispatch.held + 8) field

/-- One tick and the delivery of its signals. -/
def turn (field : Field) (sink : Sink) (now : Timestamp) : Field :=
  (field.tick now).deliverAll sink

/-- A number of ticks, each followed by the delivery of its signals. -/
def turns (sink : Sink) (now : Timestamp) : Nat → Field → Field
  | 0, field => field
  | count + 1, field => turns sink now count (field.turn sink now)

/-- The milliseconds of the longest wait: thirty years of 365 days. -/
def longestWait : Nat := 30 * 365 * 24 * 60 * 60 * 1000

/-- The milliseconds from one tick to the next: a period, but no more than the longest wait. -/
def wait (config : ScheduleConfig) : Nat :=
  min config.period longestWait

/-- The milliseconds from the first to the last of some ticks. -/
def elapsed (config : ScheduleConfig) (ticks : Nat) : Nat :=
  (ticks - 1) * wait config

/-- Stops a field, if nobody has done so, and sums up what it has done. -/
def stop (field : Field) (sink : Sink) (now : Timestamp) : Except RunError Summary × Field :=
  if field.stopping then (.error .alreadyStopped, field)
  else
    -- A tick in hand comes to its end first; the step after that is the one that hears the request.
    let rested := (field.step .requestStop).finishTick now
    let field := ((rested.workStep now).closeSignals).deliverAll sink
    match field.work with
    | .faulted fault => (.error (.faulted fault), field)
    | _ => (.ok field.summary, field)

end Field

end Vivarium
