import Vivarium.Audit.Log
import Vivarium.Config.Basic
import Vivarium.Population.Basic

/-!
# Recording

A recorder passes entries on to the log. It may be told to leave out
observations or evaluations, and counts what it leaves out as well as what it
writes. Entries wait with the recorder until it is flushed; a recorder that is
finished has flushed everything.
-/

namespace Vivarium

/-- What a recorder has done so far. -/
structure AuditStats where
  written : Nat := 0
  skipped : Nat := 0
  bytes : Nat := 0
  deriving DecidableEq, Repr

/-- What a recorder has done, on one line. -/
def AuditStats.text (stats : AuditStats) : String :=
  s!"{stats.written} entries written ({stats.bytes} bytes), {stats.skipped} skipped"

/-- A recorder: what it keeps, what waits for the log, and what it has done. -/
structure Recorder where
  observations : Bool := true
  fitness : Bool := true
  pending : List AuditEntry := []
  stats : AuditStats := {}

/-- The recorder that audit settings ask for. -/
def AuditConfig.recorder (config : AuditConfig) : Recorder :=
  { observations := config.recordObservations, fitness := config.recordFitness }

/-- The entries of a tick: observations, evaluations, lineages. -/
def TickReport.entries (report : TickReport) : List AuditEntry :=
  report.observations.map .observation ++ report.fitness.map .fitness ++
    report.lineage.map .lineage

namespace Recorder

/-- Whether an entry is written. -/
def keeps (recorder : Recorder) : AuditEntry → Bool
  | .observation _ => recorder.observations
  | .fitness _ => recorder.fitness
  | _ => true

/-- The bytes of an entry in the log, with its line feed. -/
def size (entry : AuditEntry) : Nat :=
  entry.encode.utf8ByteSize + 1

/-- The counts after one more entry was written. -/
def countWritten (stats : AuditStats) (entry : AuditEntry) : AuditStats :=
  { stats with written := stats.written + 1, bytes := stats.bytes + size entry }

/-- The counts after one more entry was left out. -/
def countSkipped (stats : AuditStats) : AuditStats :=
  { stats with skipped := stats.skipped + 1 }

/-- Offers an entry, and says whether it was written. -/
def record (recorder : Recorder) (entry : AuditEntry) : Bool × Recorder :=
  if recorder.keeps entry then
    (true,
      { recorder with
        pending := recorder.pending ++ [entry]
        stats := countWritten recorder.stats entry })
  else (false, { recorder with stats := countSkipped recorder.stats })

/-- Offers entries one after another, and counts those that were written. -/
def recordAll (recorder : Recorder) : List AuditEntry → Nat × Recorder
  | [] => (0, recorder)
  | entry :: rest =>
      let (written, recorder) := recorder.record entry
      let (more, recorder) := recorder.recordAll rest
      ((if written then 1 else 0) + more, recorder)

def recordTick (recorder : Recorder) (report : TickReport) : Nat × Recorder :=
  recorder.recordAll report.entries

/-- Hands over what waits for the log. -/
def flush (recorder : Recorder) : List AuditEntry × Recorder :=
  (recorder.pending, { recorder with pending := [] })

end Recorder

end Vivarium
