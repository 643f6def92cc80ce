import Vivarium.Audit.Recorder
import Vivarium.Feed
import Vivarium.Population.Tick

/-!
# The store of an audit log

A log is kept in a file, which need not be there at first, and at most one
recorder is open on it. What waits with the recorder reaches the file when it is
flushed. To open another recorder finishes the one before, and a recorder that
is finished has flushed everything, so nothing that was written gets lost.
-/

namespace Vivarium

/-- The file of a log, and the recorder that is open on it. -/
structure AuditStore where
  file : Option ByteArray := none
  recorder : Option Recorder := none

namespace AuditStore

/-- Moves what waits with the recorder to the file. -/
def flush (store : AuditStore) : AuditStore :=
  match store.recorder with
  | none => store
  | some recorder =>
      let (entries, recorder) := recorder.flush
      { file := some (AuditLog.append (store.file.getD .empty) entries), recorder := some recorder }

/-- Opens a recorder, on a new file if there is none. -/
def begin (store : AuditStore) (recorder : Recorder) : AuditStore :=
  { file := some (store.flush.file.getD .empty), recorder := some recorder }

/-- Finishes the recorder, and says what it has done. -/
def finish (store : AuditStore) : Option AuditStats × AuditStore :=
  (store.recorder.map (·.stats), { store.flush with recorder := none })

end AuditStore

/-- Offers a recorder the ticks of a population that polls a queue nobody pushes into. -/
def Recorder.recordTicks (population : Population) (feed : Queue Observation) :
    Nat → Recorder → Except Fault (List Nat × Recorder)
  | 0, recorder => return ([], recorder)
  | count + 1, recorder => do
      let (poll, feed) := feed.poll population.config.population.batchSize
      let (report, population) ← population.tick poll
      let (written, recorder) := recorder.recordTick report
      let (rest, recorder) ← recordTicks population feed count recorder
      return (written :: rest, recorder)

end Vivarium
