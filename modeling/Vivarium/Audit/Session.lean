import Vivarium.Audit.Store

/-!
# Recording sessions

A session opens a recorder on the file of a log, makes any number of calls of
it, and finishes it. Each session says for itself what it leaves out. One
session after another may be held on the same file, and none of them looks at
what the ones before have written.
-/

namespace Vivarium

/-- One call of an open recorder. -/
inductive Recording where
  | entry (entry : AuditEntry)
  | tick (report : TickReport)
  | flush

/-- The entries that a call offers. -/
def Recording.entries : Recording → List AuditEntry
  | .entry offered => [offered]
  | .tick report => report.entries
  | .flush => []

/-- A session: what its recorder keeps, and the calls that are made of it. -/
structure Session where
  observations : Bool := true
  fitness : Bool := true
  calls : List Recording

/-- The recorder that a session opens. -/
def Session.recorder (session : Session) : Recorder :=
  { observations := session.observations, fitness := session.fitness }

/-- What came of a session: how many entries each call wrote, and what the recorder has done. -/
structure Minutes where
  written : List Nat
  stats : Option AuditStats

namespace AuditStore

/-- Makes a call of the open recorder, and says how many entries it wrote. -/
def call (store : AuditStore) (recording : Recording) : Nat × AuditStore :=
  match store.recorder, recording with
  | none, _ => (0, store)
  | some recorder, .entry offered =>
      let (written, recorder) := recorder.record offered
      (if written then 1 else 0, { store with recorder := some recorder })
  | some recorder, .tick report =>
      let (written, recorder) := recorder.recordTick report
      (written, { store with recorder := some recorder })
  | some _, .flush => (0, store.flush)

/-- Makes calls of the open recorder, one after another. -/
def callAll (store : AuditStore) : List Recording → List Nat × AuditStore
  | [] => ([], store)
  | recording :: rest =>
      let (written, store) := store.call recording
      let (more, store) := store.callAll rest
      (written :: more, store)

/-- Holds a session on the file. -/
def hold (store : AuditStore) (session : Session) : Minutes × AuditStore :=
  let (written, store) := (store.begin session.recorder).callAll session.calls
  let (stats, store) := store.finish
  ({ written, stats }, store)

/-- Holds sessions on the file, one after another. -/
def holdAll (store : AuditStore) : List Session → List Minutes × AuditStore
  | [] => ([], store)
  | session :: rest =>
      let (minutes, store) := store.hold session
      let (more, store) := store.holdAll rest
      (minutes :: more, store)

end AuditStore

end Vivarium
