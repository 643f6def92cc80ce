import Vivarium.Field.Step
import Mathlib.Tactic

/-!
# What a step can do

A field takes a step by looking at the stage of the party whose turn it is. The
relation below lists what can come of it, with what was found out on the way,
one case for each thing that can happen. Whatever a run keeps is kept case by
case, and none of the cases has to be found by unfolding the step again.
-/

namespace Vivarium

namespace Field

/-- What an action makes of a field. -/
inductive Steps (field : Field) : Action → Field → Prop where
  | observe (event : Observation) :
      Steps field (.observe event) { field with feed := (field.feed.push event).2 }
  | closeFeed : Steps field .closeFeed { field with feed := field.feed.close }
  | requestStop : Steps field .requestStop { field with stopping := true }
  | close (stage : field.work = .stopped) :
      Steps field .closeSignals { field with signals := field.signals.close }
  | keepOpen (stage : field.work ≠ .stopped) : Steps field .closeSignals field
  | stop {now : Timestamp} (stage : field.work = .idle) (asked : field.stopping = true) :
      Steps field (.work now) { field with work := .stopped }
  | poll {now : Timestamp} (stage : field.work = .idle) (unasked : field.stopping = false)
      {batch : List Observation} {feed : Queue Observation}
      (taken : field.feed.drain field.population.config.population.batchSize = (batch, feed)) :
      Steps field (.work now) { field with feed, work := .drained batch }
  | compute {now : Timestamp} {batch : List Observation} (stage : field.work = .drained batch)
      {report : TickReport} {population : Population}
      (tick : field.population.tick (field.feed.verdict batch) = .ok (report, population)) :
      Steps field (.work now) { field with population, work := .computed report }
  | fault {now : Timestamp} {batch : List Observation} (stage : field.work = .drained batch)
      {fault : Fault} (tick : field.population.tick (field.feed.verdict batch) = .error fault) :
      Steps field (.work now) { field with work := .faulted fault }
  | publish {now : Timestamp} {report : TickReport} (stage : field.work = .computed report) :
      Steps field (.work now) { field with snapshot := report.snapshot, work := .published report }
  | settle {now : Timestamp} {report : TickReport} (stage : field.work = .published report)
      {signals : List Signal} {emitter : Emitter}
      (evaluated : field.emitter.evaluate report.snapshot.metrics now = (signals, emitter))
      {recorder : Option Recorder} {log : List AuditEntry}
      (recorded : field.record (report.entries ++ signals.map .signal) =
        { field with recorder, log }) :
      Steps field (.work now)
        { field with recorder, log, emitter, work := .sending report.snapshot.generation signals }
  | send {now : Timestamp} {generation : Nat} {signal : Signal} {rest : List Signal}
      (stage : field.work = .sending generation (signal :: rest)) :
      Steps field (.work now)
        { field with
          emitted := field.emitted + 1
          signals := (field.signals.push signal).2
          work := .sending generation rest }
  | announce {now : Timestamp} {generation : Nat} (stage : field.work = .sending generation []) :
      Steps field (.work now) { field with announced := generation, work := .idle }
  | broken {now : Timestamp} {fault : Fault} (stage : field.work = .faulted fault) :
      Steps field (.work now) field
  | atRest {now : Timestamp} (stage : field.work = .stopped) : Steps field (.work now) field
  | wake {sink : Sink} (stage : field.dispatch = .waiting) (ready : field.signals.ready = true) :
      Steps field (.dispatch sink) { field with dispatch := .awake }
  | sleep {sink : Sink} (stage : field.dispatch = .waiting)
      (unready : field.signals.ready = false) : Steps field (.dispatch sink) field
  | miss {sink : Sink} (stage : field.dispatch = .awake) (empty : field.signals.items = []) :
      Steps field (.dispatch sink)
        { field with signals := { field.signals with items := [] }, dispatch := .undecided }
  | collect {sink : Sink} (stage : field.dispatch = .awake) (held : field.signals.items ≠ []) :
      Steps field (.dispatch sink)
        { field with
          signals := { field.signals with items := [] }
          dispatch := .applying field.signals.items }
  | finish {sink : Sink} (stage : field.dispatch = .undecided)
      (closed : field.signals.closed = true) :
      Steps field (.dispatch sink) { field with dispatch := .finished }
  | goOn {sink : Sink} (stage : field.dispatch = .undecided)
      (unclosed : field.signals.closed = false) :
      Steps field (.dispatch sink) { field with dispatch := .waiting }
  | deliver {sink : Sink} {signal : Signal} {rest : List Signal}
      (stage : field.dispatch = .applying (signal :: rest))
      {recorder : Option Recorder} {log : List AuditEntry}
      (recorded : field.record [.outcome (sink.outcome signal)] = { field with recorder, log }) :
      Steps field (.dispatch sink)
        { field with
          recorder
          log
          applied := field.applied + if (sink.outcome signal).success then 1 else 0
          failed := field.failed + if (sink.outcome signal).success then 0 else 1
          delivered := field.delivered ++ [signal]
          dispatch := .applying rest }
  | batchDone {sink : Sink} (stage : field.dispatch = .applying []) :
      Steps field (.dispatch sink) { field with dispatch := .waiting }
  | retired {sink : Sink} (stage : field.dispatch = .finished) : Steps field (.dispatch sink) field

theorem record_eq (field : Field) (entries : List AuditEntry) :
    ∃ recorder log, field.record entries = { field with recorder, log } := by
  rw [record]
  split
  · exact ⟨field.recorder, field.log, rfl⟩
  · exact ⟨_, _, rfl⟩

variable {field : Field}

theorem workStep_steps (field : Field) (now : Timestamp) :
    field.Steps (.work now) (field.workStep now) := by
  rw [workStep]
  cases stage : field.work with
  | idle =>
    show field.Steps (.work now) field.begin
    rw [begin]
    split
    · next asked => exact .stop stage asked
    · next unasked => exact .poll stage (Bool.eq_false_iff.mpr unasked) rfl
  | drained batch =>
    show field.Steps (.work now) (field.compute batch)
    rw [compute]
    split
    · next report population tick => exact .compute stage tick
    · next fault tick => exact .fault stage tick
  | computed report => exact .publish stage
  | published report =>
    show field.Steps (.work now) (field.settle report now)
    rw [settle]
    obtain ⟨recorder, log, recorded⟩ := record_eq field (report.entries ++
      (field.emitter.evaluate report.snapshot.metrics now).1.map .signal)
    simp only [recorded]
    exact .settle stage rfl recorded
  | sending generation signals =>
    cases signals with
    | nil => exact .announce stage
    | cons signal rest => exact .send stage
  | faulted fault => exact .broken stage
  | stopped => exact .atRest stage

theorem dispatchStep_steps (field : Field) (sink : Sink) :
    field.Steps (.dispatch sink) (field.dispatchStep sink) := by
  rw [dispatchStep]
  cases stage : field.dispatch with
  | waiting =>
    show field.Steps (.dispatch sink)
      (if field.signals.ready then { field with dispatch := .awake } else field)
    split
    · next ready => exact .wake stage ready
    · next unready => exact .sleep stage (Bool.eq_false_iff.mpr unready)
  | awake =>
    show field.Steps (.dispatch sink) { field with
      signals := { field.signals with items := [] }
      dispatch := if field.signals.items.isEmpty then .undecided
        else .applying field.signals.items }
    split
    · next empty => exact .miss stage (List.isEmpty_iff.mp empty)
    · next held => exact .collect stage (mt List.isEmpty_iff.mpr held)
  | undecided =>
    show field.Steps (.dispatch sink)
      { field with dispatch := if field.signals.closed then .finished else .waiting }
    cases closed : field.signals.closed with
    | true => exact .finish stage closed
    | false => exact .goOn stage closed
  | applying batch =>
    cases batch with
    | nil => exact .batchDone stage
    | cons signal rest =>
      obtain ⟨recorder, log, recorded⟩ := record_eq field [.outcome (sink.outcome signal)]
      have hdeliver : field.Steps (.dispatch sink) _ := .deliver stage recorded
      simp only [Field.deliver, recorded]
      exact hdeliver
  | finished => exact .retired stage

theorem step_steps (field : Field) (action : Action) : field.Steps action (field.step action) := by
  cases action with
  | observe event => exact .observe event
  | closeFeed => exact .closeFeed
  | requestStop => exact .requestStop
  | work now => exact workStep_steps field now
  | dispatch sink => exact dispatchStep_steps field sink
  | closeSignals =>
    show field.Steps .closeSignals field.closeSignals
    rw [closeSignals]
    split
    · next stage => exact .close stage
    · next stage => exact .keepOpen stage

end Field

end Vivarium
