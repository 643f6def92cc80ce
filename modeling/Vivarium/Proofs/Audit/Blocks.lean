import Vivarium.Proofs.Audit.Recording
import Vivarium.Proofs.Population.Run

/-!
# Blocks of a log

What is written to a log at once is a block: a tick with all that it produced
and the signals it is about to send, or the outcome of one signal. What a
recorder leaves out of a block is left out of its entries, never of its signals
or outcomes. A log tells causes before effects if no outcome comes before the
signal that it is about, and it stays so when a block is added whose outcomes
are about signals that are in the log already.
-/

namespace Vivarium

/-! ## What entries say -/

/-- What tells signals apart: tick and parameter. -/
def Signal.key (signal : Signal) : Nat × String :=
  (signal.tick, signal.parameter)

/-- The key of the signal that an outcome is about. -/
def Outcome.key (outcome : Outcome) : Nat × String :=
  (outcome.tick, outcome.parameter)

/-- Whether an outcome is one of a given signal. -/
structure Outcome.Answers (outcome : Outcome) (signal : Signal) : Prop where
  tick : outcome.tick = signal.tick
  parameter : outcome.parameter = signal.parameter
  value : outcome.value = signal.value

theorem Outcome.Answers.key_eq {outcome : Outcome} {signal : Signal} (h : outcome.Answers signal) :
    outcome.key = signal.key :=
  Prod.ext h.tick h.parameter

theorem Sink.outcome_answers (sink : Sink) (signal : Signal) :
    (sink.outcome signal).Answers signal := by
  rw [Sink.outcome]
  split
  · exact ⟨rfl, rfl, rfl⟩
  · exact ⟨rfl, rfl, rfl⟩

namespace AuditEntry

/-- The signal of an entry, if it is one. -/
def signal? : AuditEntry → Option Signal
  | .signal sent => some sent
  | _ => none

/-- The outcome of an entry, if it is one. -/
def outcome? : AuditEntry → Option Outcome
  | .outcome result => some result
  | _ => none

/-- The tick that an entry bears, if it bears one. -/
def tick? : AuditEntry → Option Nat
  | .fitness record => some record.tick
  | .signal sent => some sent.tick
  | .outcome result => some result.tick
  | _ => none

end AuditEntry

/-- Whether everything that a tick reports bears its number. -/
structure TickReport.Dated (report : TickReport) (tick : Nat) : Prop where
  generation : report.snapshot.generation = tick
  metrics : report.snapshot.metrics.tick = tick
  fitness : ∀ record ∈ report.fitness, record.tick = tick

theorem Evaluation.tick_of_mem {tick : Nat} {score : Descriptor → Score} {cells : List Cell} :
    ∀ record ∈ (Evaluation.of tick score cells).records, record.tick = tick := by
  intro record hrecord
  obtain ⟨cell, -, rfl⟩ := List.mem_map.mp hrecord
  rfl

theorem Population.tick_dated {population next : Population} {poll : Poll} {report : TickReport}
    (h : population.tick poll = .ok (report, next)) :
    report.Dated (population.generation + 1) ∧ next.generation = population.generation + 1 := by
  obtain ⟨founders, children, middle, stages, account, rfl, rfl⟩ := account_of_tick h
  refine ⟨⟨account.tick, account.tick, fun record hrecord => ?_⟩, account.tick⟩
  have hrecord : record ∈ stages.established.records ++ stages.founders.records ++
    stages.children.records := hrecord
  rw [account.established, account.founders, account.children, List.mem_append,
    List.mem_append] at hrecord
  rcases hrecord with (h | h) | h <;> exact Evaluation.tick_of_mem record h

/-! ## Blocks -/

namespace AuditLog

/-- What is written to the log at once. -/
inductive Block where
  | tick (report : TickReport) (signals : List Signal)
  | outcome (outcome : Outcome)

namespace Block

/-- The entries that a block offers, in order. -/
def entries : Block → List AuditEntry
  | .tick report signals => report.entries ++ signals.map .signal
  | .outcome result => [.outcome result]

/-- The report of the tick that a block is about, if it is about one. -/
def report? : Block → Option TickReport
  | .tick report _ => some report
  | .outcome _ => none

/-- The signals of a block. -/
def signals : Block → List Signal
  | .tick _ signals => signals
  | .outcome _ => []

/-- The outcome in a block, if it is one. -/
def outcome? : Block → Option Outcome
  | .tick _ _ => none
  | .outcome result => some result

/-- Whether the entries of a block belong together. -/
structure Sound (block : Block) : Prop where
  dated : ∀ report, block.report? = some report → report.Dated report.snapshot.generation
  sent : ∀ report, block.report? = some report →
    ∀ signal ∈ block.signals, signal.tick = report.snapshot.generation
  distinct : (block.signals.map (·.parameter)).Nodup

theorem sound_outcome (result : Outcome) : (outcome result).Sound where
  dated report hreport := by cases hreport
  sent report hreport := by cases hreport
  distinct := .nil

theorem signals_of_report?_eq_none {block : Block} (h : block.report? = none) :
    block.signals = [] := by
  cases block with
  | tick report signals => cases h
  | outcome result => rfl

theorem filterMap_signal?_entries (recorder : Recorder) (block : Block) :
    (recorder.kept block.entries).filterMap AuditEntry.signal? = block.signals := by
  cases block with
  | tick report signals =>
      rw [entries, Recorder.kept_append, List.filterMap_append]
      have hreport : (recorder.kept report.entries).filterMap AuditEntry.signal? = [] := by
        refine List.filterMap_eq_nil_iff.mpr fun entry hentry => ?_
        have hmem := List.mem_of_mem_filter hentry
        simp only [TickReport.entries, List.mem_append, List.mem_map] at hmem
        rcases hmem with (⟨_, -, rfl⟩ | ⟨_, -, rfl⟩) | ⟨_, -, rfl⟩ <;> rfl
      have hkept : recorder.kept (signals.map .signal) = signals.map .signal := by
        refine List.filter_eq_self.mpr fun entry hentry => ?_
        obtain ⟨signal, -, rfl⟩ := List.mem_map.mp hentry
        rfl
      rw [hreport, hkept, List.filterMap_map, List.nil_append]
      exact List.filterMap_some
  | outcome result => rfl

theorem filterMap_outcome?_entries (recorder : Recorder) (block : Block) :
    (recorder.kept block.entries).filterMap AuditEntry.outcome? = block.outcome?.toList := by
  cases block with
  | tick report signals =>
      refine List.filterMap_eq_nil_iff.mpr fun entry hentry => ?_
      have hmem := List.mem_of_mem_filter hentry
      simp only [entries, TickReport.entries, List.mem_append, List.mem_map] at hmem
      rcases hmem with ((⟨_, -, rfl⟩ | ⟨_, -, rfl⟩) | ⟨_, -, rfl⟩) | ⟨_, -, rfl⟩ <;> rfl
  | outcome result => rfl

theorem Sound.tick_of_mem {block : Block} (sound : block.Sound) {report : TickReport}
    (h : block.report? = some report) :
    ∀ entry ∈ block.entries, ∀ tick, entry.tick? = some tick →
      tick = report.snapshot.generation := by
  intro entry hentry tick htick
  cases block with
  | outcome result => cases h
  | tick report' signals =>
      cases h
      simp only [entries, TickReport.entries, List.mem_append, List.mem_map] at hentry
      rcases hentry with ((⟨_, -, rfl⟩ | ⟨record, hrecord, rfl⟩) | ⟨_, -, rfl⟩) |
        ⟨signal, hsignal, rfl⟩
      · cases htick
      · cases htick
        exact (sound.dated report rfl).fitness record hrecord
      · cases htick
      · cases htick
        exact sound.sent report rfl signal hsignal

end Block

/-- The entries of some blocks that a recorder keeps, in order. -/
def kept (recorder : Recorder) (blocks : List Block) : List AuditEntry :=
  blocks.flatMap fun block => recorder.kept block.entries

/-- Whether every outcome comes after the signal that it is about. -/
def Caused (entries : List AuditEntry) : Prop :=
  ∀ (position : Nat) (outcome : Outcome), entries[position]? = some (.outcome outcome) →
    ∃ earlier < position, ∃ signal : Signal, entries[earlier]? = some (.signal signal) ∧
      outcome.Answers signal

variable {recorder : Recorder} {blocks : List Block} {entries more : List AuditEntry}

theorem kept_concat (recorder : Recorder) (blocks : List Block) (block : Block) :
    kept recorder (blocks ++ [block]) = kept recorder blocks ++ recorder.kept block.entries := by
  rw [kept, List.flatMap_append, List.flatMap_singleton, kept]

theorem filterMap_signal?_kept (recorder : Recorder) (blocks : List Block) :
    (kept recorder blocks).filterMap AuditEntry.signal? = blocks.flatMap Block.signals := by
  rw [kept, List.filterMap_flatMap]
  simp only [Block.filterMap_signal?_entries]

theorem filterMap_outcome?_kept (recorder : Recorder) (blocks : List Block) :
    (kept recorder blocks).filterMap AuditEntry.outcome? = blocks.filterMap Block.outcome? := by
  rw [kept, List.filterMap_flatMap]
  simp only [Block.filterMap_outcome?_entries]
  exact (List.filterMap_eq_flatMap_toList ..).symm

theorem Caused.append (h : Caused entries) (hmore : ∀ outcome : Outcome,
      .outcome outcome ∈ more → ∃ signal : Signal, .signal signal ∈ entries ∧
        outcome.Answers signal) :
    Caused (entries ++ more) := by
  intro position outcome hposition
  by_cases hbefore : position < entries.length
  · rw [List.getElem?_append_left hbefore] at hposition
    obtain ⟨earlier, hlt, signal, hsignal, answers⟩ := h position outcome hposition
    refine ⟨earlier, hlt, signal, ?_, answers⟩
    rw [List.getElem?_append_left (Nat.lt_trans hlt hbefore)]
    exact hsignal
  · have hafter := Nat.le_of_not_lt hbefore
    rw [List.getElem?_append_right hafter] at hposition
    obtain ⟨signal, hmem, answers⟩ := hmore outcome (List.mem_of_getElem? hposition)
    obtain ⟨earlier, hlt, hsignal⟩ := List.getElem_of_mem hmem
    refine ⟨earlier, Nat.lt_of_lt_of_le hlt hafter, signal, ?_, answers⟩
    rw [List.getElem?_append_left hlt, List.getElem?_eq_getElem hlt, hsignal]

/-- One more block tells causes before effects, if whatever its outcome answers is kept already. -/
theorem Caused.concat {block : Block} (h : Caused (kept recorder blocks))
    (causes : ∀ outcome, block.outcome? = some outcome →
      ∃ signal : Signal, .signal signal ∈ kept recorder blocks ∧ outcome.Answers signal) :
    Caused (kept recorder (blocks ++ [block])) := by
  rw [kept_concat]
  refine h.append fun outcome houtcome => causes outcome ?_
  have hmem : outcome ∈ (recorder.kept block.entries).filterMap AuditEntry.outcome? :=
    List.mem_filterMap.mpr ⟨_, houtcome, rfl⟩
  rw [Block.filterMap_outcome?_entries] at hmem
  exact Option.mem_toList.mp hmem

end AuditLog

end Vivarium
