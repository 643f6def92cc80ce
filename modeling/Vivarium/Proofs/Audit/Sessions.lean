import Vivarium.Audit.Session
import Vivarium.Proofs.Audit.Lines
import Vivarium.Proofs.Audit.Recording

/-!
# Sessions play back

While a session lasts, what it has kept so far is partly in the file and partly
waits with the recorder. A flush moves the border between the two and changes
nothing else; every other call adds to what waits. So the file followed by what
waits is the log as it was, with the kept entries appended, and at the end of
the session all of that is in the file. The counts of the recorder follow the
same entries one by one. Sessions held one after another append one after
another, and a log reads as what was appended to it.
-/

namespace Vivarium

/-- The entries that the calls of a session offer, in order. -/
def Session.offered (session : Session) : List AuditEntry :=
  session.calls.flatMap Recording.entries

/-- The entries that a session does not leave out, in order. -/
def Session.kept (session : Session) : List AuditEntry :=
  session.recorder.kept session.offered

/-- What a session says for itself: each call how many entries it wrote, and its recorder how many
these were in all and how many it left out. -/
structure Session.Accounts (session : Session) (minutes : Minutes) : Prop where
  written : minutes.written =
    session.calls.map fun call => (session.recorder.kept call.entries).length
  stats : ∃ stats, minutes.stats = some stats ∧ stats.written = minutes.written.sum ∧
    stats.written + stats.skipped = session.offered.length

/-- What the recorders of sessions have counted, added up. -/
def Minutes.total (count : AuditStats → Nat) (minutes : List Minutes) : Nat :=
  ((minutes.filterMap Minutes.stats).map count).sum

theorem Minutes.total_cons {minutes : Minutes} {stats : AuditStats}
    (h : minutes.stats = some stats) (count : AuditStats → Nat) (rest : List Minutes) :
    total count (minutes :: rest) = count stats + total count rest := by
  rw [total, List.filterMap_cons_some h, List.map_cons, List.sum_cons, total]

namespace AuditStore

variable {opened recorder last : Recorder} {log : ByteArray} {entries : List AuditEntry}
  {store : AuditStore}

/-! ## While a session lasts -/

/-- How a store stands with its recorder open, which has been offered some entries so far. -/
structure Running (opened : Recorder) (log : ByteArray) (entries : List AuditEntry)
    (recorder : Recorder) (store : AuditStore) : Prop where
  isOpen : store.recorder = some recorder
  settings : recorder.keeps = opened.keeps
  content : AuditLog.append (store.file.getD .empty) recorder.pending =
    AuditLog.append log (opened.kept entries)
  written : recorder.stats.written = (opened.kept entries).length
  bytes : recorder.stats.bytes = Recorder.sizes (opened.kept entries)
  counted : recorder.stats.written + recorder.stats.skipped = entries.length

theorem Running.took {more : List AuditEntry} (running : Running opened log entries recorder store)
    (took : recorder.Took more last) :
    Running opened log (entries ++ more) last { store with recorder := some last } := by
  have hkept : recorder.kept more = opened.kept more := Recorder.kept_congr running.settings more
  constructor
  case isOpen => rfl
  case settings => rw [took.settings, running.settings]
  case content =>
    show AuditLog.append (store.file.getD .empty) last.pending = _
    rw [took.pending, hkept, AuditLog.append_append, running.content, Recorder.kept_append,
      AuditLog.append_append]
  case written =>
    rw [took.written, running.written, hkept, Recorder.kept_append, List.length_append]
  case bytes => rw [took.bytes, running.bytes, hkept, Recorder.kept_append, Recorder.sizes_append]
  case counted => rw [took.counted, running.counted, List.length_append]

theorem flush_of_some (h : store.recorder = some recorder) :
    store.flush = { file := some (AuditLog.append (store.file.getD .empty) recorder.pending)
                    recorder := some { recorder with pending := [] } } := by
  rw [flush, h]
  rfl

theorem Running.flushed (running : Running opened log entries recorder store) :
    Running opened log entries { recorder with pending := [] } store.flush := by
  rw [flush_of_some running.isOpen]
  exact ⟨rfl, running.settings, running.content, running.written, running.bytes, running.counted⟩

theorem Running.called (running : Running opened log entries recorder store)
    (recording : Recording) : (store.call recording).1 = (opened.kept recording.entries).length ∧
      ∃ last, Running opened log (entries ++ recording.entries) last (store.call recording).2 := by
  have hopen := running.isOpen
  rw [← Recorder.kept_congr running.settings recording.entries]
  simp only [call, hopen]
  cases recording with
  | entry offered =>
      exact ⟨recorder.record_answer offered, _, running.took (recorder.record_took offered)⟩
  | tick report =>
      exact ⟨recorder.recordAll_answer report.entries, _,
        running.took (recorder.recordAll_took report.entries)⟩
  | flush =>
      refine ⟨rfl, { recorder with pending := [] }, ?_⟩
      rw [Recording.entries, List.append_nil]
      exact running.flushed

theorem Running.calledAll (running : Running opened log entries recorder store)
    (calls : List Recording) :
    (store.callAll calls).1 = calls.map (fun call => (opened.kept call.entries).length) ∧
      ∃ last, Running opened log (entries ++ calls.flatMap Recording.entries) last
        (store.callAll calls).2 := by
  induction calls generalizing entries recorder store with
  | nil =>
      refine ⟨rfl, recorder, ?_⟩
      rw [List.flatMap_nil, List.append_nil]
      exact running
  | cons call rest ih =>
      obtain ⟨hfirst, middle, hmiddle⟩ := running.called call
      obtain ⟨hrest, last, hlast⟩ := ih hmiddle
      refine ⟨?_, last, ?_⟩
      · rw [List.map_cons, ← hfirst, ← hrest]
        rfl
      · rw [List.flatMap_cons, ← List.append_assoc]
        exact hlast

/-! ## One session -/

theorem hold_of_closed (closed : store.recorder = none) (session : Session) :
    session.Accounts (store.hold session).1 ∧
      (store.hold session).2 =
        { file := some (AuditLog.append (store.file.getD .empty) session.kept) } ∧
      ∃ stats, (store.hold session).1.stats = some stats ∧ stats.written = session.kept.length ∧
        stats.bytes = Recorder.sizes session.kept := by
  have hbegun : store.begin session.recorder =
      { file := some (store.file.getD .empty), recorder := some session.recorder } := by
    rw [begin, flush, closed]
  have hstart : Running session.recorder (store.file.getD .empty) [] session.recorder
      (store.begin session.recorder) := by
    rw [hbegun]
    exact ⟨rfl, rfl, rfl, rfl, rfl, rfl⟩
  obtain ⟨hwritten, last, hlast⟩ := hstart.calledAll session.calls
  have hstats : (store.hold session).1.stats = some last.stats := by
    show Option.map (·.stats) ((store.begin session.recorder).callAll session.calls).2.recorder = _
    rw [hlast.isOpen]
    rfl
  refine ⟨⟨hwritten, last.stats, hstats, ?_, hlast.counted⟩, ?_, last.stats, hstats, hlast.written,
    hlast.bytes⟩
  · show last.stats.written = ((store.begin session.recorder).callAll session.calls).1.sum
    rw [hwritten, hlast.written, List.nil_append, Recorder.kept, List.filter_flatMap,
      List.length_flatMap]
    rfl
  · show { ((store.begin session.recorder).callAll session.calls).2.flush with recorder := none } = _
    rw [flush_of_some hlast.isOpen, hlast.content]
    rfl

/-! ## Sessions one after another -/

theorem holdAll_of_closed (closed : store.recorder = none) (sessions : List Session) :
    List.Forall₂ Session.Accounts sessions (store.holdAll sessions).1 ∧
      (store.holdAll sessions).2.file.getD .empty =
        AuditLog.append (store.file.getD .empty) (sessions.flatMap Session.kept) ∧
      Minutes.total AuditStats.written (store.holdAll sessions).1 = (sessions.flatMap Session.kept).length ∧
      Minutes.total AuditStats.bytes (store.holdAll sessions).1 =
        Recorder.sizes (sessions.flatMap Session.kept) := by
  induction sessions generalizing store with
  | nil => exact ⟨.nil, rfl, rfl, rfl⟩
  | cons session rest ih =>
      obtain ⟨haccounts, hafter, stats, hstats, hwritten, hbytes⟩ := hold_of_closed closed session
      have hclosed : (store.hold session).2.recorder = none := by rw [hafter]
      obtain ⟨heach, hfile, hcount, hsize⟩ := ih hclosed
      have hall : store.holdAll (session :: rest) =
          ((store.hold session).1 :: ((store.hold session).2.holdAll rest).1,
            ((store.hold session).2.holdAll rest).2) := rfl
      rw [hall, List.flatMap_cons]
      refine ⟨.cons haccounts heach, ?_, ?_, ?_⟩
      · rw [hfile, hafter, AuditLog.append_append]
        rfl
      · rw [Minutes.total_cons hstats, hcount, hwritten, List.length_append]
      · rw [Minutes.total_cons hstats, hsize, hbytes, Recorder.sizes_append]

theorem isSome_holdAll (closed : store.recorder = none) {sessions : List Session}
    (there : store.file.isSome ∨ sessions ≠ []) : (store.holdAll sessions).2.file.isSome := by
  induction sessions generalizing store with
  | nil => exact there.resolve_right (fun h => h rfl)
  | cons session rest ih =>
      obtain ⟨-, hafter, -⟩ := hold_of_closed closed session
      have hclosed : (store.hold session).2.recorder = none := by rw [hafter]
      have hthere : (store.hold session).2.file.isSome := by
        rw [hafter]
        exact Option.isSome_some
      exact ih hclosed (.inl hthere)

theorem open?_holdAll {sessions : List Session} (held : sessions ≠ []) :
    AuditLog.open? (({} : AuditStore).holdAll sessions).2.file =
      AuditLog.entries (AuditLog.append .empty (sessions.flatMap Session.kept)) := by
  have hclosed : ({} : AuditStore).recorder = none := rfl
  obtain ⟨-, hfile, -⟩ := holdAll_of_closed hclosed sessions
  have hsome := isSome_holdAll hclosed (.inr held)
  obtain ⟨log, hlog⟩ := Option.isSome_iff_exists.mp hsome
  rw [hlog] at hfile ⊢
  exact congrArg AuditLog.entries hfile

/--
Sessions that are held on a file that is not there at first account for what they were offered and
for what the file holds, and the log reads as what they kept exactly when the floats in that do.
-/
theorem holdAll_plays_back_iff (sessions : List Session)
    (storable : ∀ entry ∈ sessions.flatMap Session.kept, entry.Storable) :
    let (minutes, store) := ({} : AuditStore).holdAll sessions
    List.Forall₂ Session.Accounts sessions minutes ∧
      Minutes.total AuditStats.written minutes = (sessions.flatMap Session.kept).length ∧
      Minutes.total AuditStats.bytes minutes = (store.file.getD .empty).size ∧
      (sessions ≠ [] →
        (AuditLog.open? store.file = .ok (sessions.flatMap Session.kept) ↔
          ∀ entry ∈ sessions.flatMap Session.kept, entry.ReadsBack)) := by
  have hclosed : ({} : AuditStore).recorder = none := rfl
  obtain ⟨heach, hfile, hcount, hsize⟩ := holdAll_of_closed hclosed sessions
  refine ⟨heach, hcount, ?_, fun held => ?_⟩
  · have hempty : ((none : Option ByteArray).getD .empty).size = 0 := rfl
    rw [hfile, hsize, AuditLog.size_append, hempty, Nat.zero_add]
    rfl
  · rw [open?_holdAll held]
    exact AuditLog.entries_append_iff storable

/-- A session that leaves out observations, and one that keeps a line break in a text. -/
def sampleSessions : List Session :=
  [{ observations := false
     calls :=
      [.entry (.observation { timestamp := { day := 20000, second := 0, nano := 0 }, source := "a" }),
        .entry (.outcome
          { tick := 1, parameter := "budget", value := 0.5, success := false, error := some "a\nb" }),
        .flush] },
    { calls :=
      [.flush,
        .entry (.observation
          { timestamp := { day := 20000, second := 1, nano := 5 }
            source := "b", payload := "\r\n", affect := 0.25 })] }]

theorem holdAll_plays_back_sample :
    let (minutes, store) := ({} : AuditStore).holdAll sampleSessions
    (∀ entry ∈ sampleSessions.flatMap Session.kept, entry.Storable) ∧
      (sampleSessions.flatMap Session.kept).length = 2 ∧
      Minutes.total AuditStats.bytes minutes = (store.file.getD .empty).size ∧
      AuditLog.open? store.file = .ok (sampleSessions.flatMap Session.kept) := by
  have storable : ∀ entry ∈ sampleSessions.flatMap Session.kept, entry.Storable := by
    refine List.forall_mem_cons.mpr ⟨⟨by decide, (fun t ht => nomatch ht)⟩, List.forall_mem_cons.mpr
      ⟨⟨(fun n hn => nomatch hn), fun t ht => ?_⟩, (fun entry he => nomatch he)⟩⟩
    cases List.mem_singleton.mp ht
    exact ⟨by decide, by decide, by decide⟩
  have back : ∀ entry ∈ sampleSessions.flatMap Session.kept, entry.ReadsBack :=
    List.forall_mem_cons.mpr ⟨⟨(fun x hx => nomatch hx), by decide +kernel⟩, List.forall_mem_cons.mpr
      ⟨⟨by decide +kernel, (fun x hx => nomatch hx)⟩, (fun entry he => nomatch he)⟩⟩
  obtain ⟨-, -, hbytes, hplays⟩ := holdAll_plays_back_iff sampleSessions storable
  exact ⟨storable, rfl, hbytes, (hplays (by decide)).mpr back⟩

/-- A signal whose value is the double below `1e-30`, with the text `9.999999999999999e-31`. -/
def misread : AuditEntry :=
  .signal
    { tick := 1
      parameter := "vm.swappiness"
      value := 9.999999999999999e-31
      previous := none
      reason := "low"
      timestamp := { day := 19723, second := 0, nano := 0 } }

theorem playback_misread :
    let sessions : List Session := [{ calls := [.entry misread] }]
    misread.Storable ∧ misread.Finite ∧ sessions.flatMap Session.kept = [misread] ∧
      AuditLog.open? (({} : AuditStore).holdAll sessions).2.file ≠ .ok [misread] := by
  have storable : misread.Storable := by
    refine ⟨by decide, fun t ht => ?_⟩
    cases List.mem_singleton.mp ht
    exact ⟨by decide, by decide, by decide⟩
  refine ⟨storable, ⟨(fun x hx => nomatch hx), by decide +kernel⟩, rfl, fun h => ?_⟩
  rw [open?_holdAll (List.cons_ne_nil _ _)] at h
  have back := (AuditLog.entries_append_iff (List.forall_mem_singleton.mpr storable)).mp h
  have hvalue := (back misread (List.mem_singleton_self _)).doubles
  revert hvalue
  decide +kernel

end AuditStore

end Vivarium
