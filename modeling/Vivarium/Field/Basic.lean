import Vivarium.Audit.Recorder
import Vivarium.Feed

/-!
# A running field

A field runs a worker and a dispatcher side by side. The worker alone owns the
population and the emitter: it polls the feed, computes a tick, publishes the
snapshot, writes the tick to the log, sends its signals and announces the new
generation. The dispatcher takes signals out of their queue, gives each to a
sink and writes down what became of it. All they share is two queues, the
published snapshot and the log.

The state below is all of that at one moment between two steps, together with
how far each of the two has come.
-/

namespace Vivarium

/-- What the worker is in the middle of. -/
inductive Work where
  | idle
  | drained (batch : List Observation)
  | computed (report : TickReport)
  | published (report : TickReport)
  | sending (generation : Nat) (signals : List Signal)
  | faulted (fault : Fault)
  | stopped

/-- Whether the worker has no tick in hand. -/
def Work.resting : Work → Bool
  | .idle => true
  | .faulted _ => true
  | .stopped => true
  | _ => false

/-- What the dispatcher is in the middle of. -/
inductive Dispatch where
  | waiting
  | awake
  | undecided
  | applying (batch : List Signal)
  | finished

/-- How many signals the dispatcher has in hand. -/
def Dispatch.held : Dispatch → Nat
  | .applying batch => batch.length
  | _ => 0

/-- A field at one moment. -/
structure Field where
  population : Population
  emitter : Emitter
  feed : Queue Observation
  signals : Queue Signal
  snapshot : Snapshot
  announced : Nat
  recorder : Option Recorder
  log : List AuditEntry := []
  work : Work := .idle
  dispatch : Dispatch := .waiting
  stopping : Bool := false
  emitted : Nat := 0
  applied : Nat := 0
  failed : Nat := 0
  delivered : List Signal := []

namespace Field

/-- A field that is about to start. -/
def start (population : Population) (recorder : Option Recorder) : Field :=
  let config := population.config
  { population
    emitter := { config := config.adaptation }
    feed := .new config.schedule.feedCapacity
    signals := .new config.schedule.signalCapacity
    snapshot := population.snapshot
    announced := population.generation
    recorder }

/-- A field that is about to start, if there is room for its queues. -/
def launch (population : Population) (recorder : Option Recorder) : Except Fault Field := do
  let schedule := population.config.schedule
  let feed ← Queue.reserve Observation.footprint schedule.feedCapacity
  let signals ← Queue.reserve Signal.footprint schedule.signalCapacity
  return { start population recorder with feed, signals }

/-- Writes entries to the log at once, if there is a recorder. -/
def record (field : Field) (entries : List AuditEntry) : Field :=
  match field.recorder with
  | none => field
  | some recorder =>
      -- Nothing waits with the recorder between two writes, so the log is never behind.
      let (flushed, recorder) := (recorder.recordAll entries).2.flush
      { field with recorder := some recorder, log := field.log ++ flushed }

/-- Takes over what has been written to the log so far. -/
def takeLog (field : Field) : List AuditEntry × Field :=
  (field.log, { field with log := [] })

end Field

/-- What a field has done when it has stopped. -/
structure Summary where
  ticks : Nat := 0
  status : Status := {}
  emitted : Nat := 0
  applied : Nat := 0
  failed : Nat := 0
  dropped : Nat := 0
  audit : Option AuditStats := none

namespace Summary

/-- What became of the signals. -/
def signalsText (summary : Summary) : String :=
  s!"{summary.emitted} emitted, {summary.applied} applied, {summary.failed} failed, " ++
    s!"{summary.dropped} dropped"

/-- A summary on one line. -/
def text (summary : Summary) : String :=
  let audit :=
    match summary.audit with
    | some stats => "; audit " ++ stats.text
    | none => ""
  s!"{summary.ticks} ticks; {summary.status.text}; signals {summary.signalsText}" ++ audit

end Summary

/-- What a field has done so far. -/
def Field.summary (field : Field) : Summary :=
  { ticks := field.population.generation
    status := field.snapshot.status
    emitted := field.emitted
    applied := field.applied
    failed := field.failed
    dropped := field.signals.dropped
    audit := field.recorder.map (·.stats) }

/-- Why a field has no summary to give. -/
inductive RunError where
  | alreadyStopped
  | faulted (fault : Fault)
  | audit (cause : String)
  deriving DecidableEq, Repr

def RunError.message : RunError → String
  | .alreadyStopped => "Runtime already shut down"
  | .faulted _ => "Runtime task failed"
  | .audit cause => "Audit store error: " ++ cause

end Vivarium
