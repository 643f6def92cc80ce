import Vivarium.Proofs.Adaptation.Signals
import Vivarium.Proofs.Audit.Blocks
import Vivarium.Proofs.Field.Delivery

/-!
# The order of the log

The worker and the dispatcher of a field write to one log. Whoever writes holds
the log until everything is in it that belongs together, so the log is a sequence
of blocks: a tick with all that it produced and the signals it is about to send,
or the outcome of one signal. Between the blocks the parties may get in between
one another as they like, and still the log tells causes before effects. The
worker writes a signal down before it sends it, so whatever the dispatcher has
in hand is in the log already.

Ticks are numbered one after another and an emitter speaks of a parameter once a
tick at most, so tick and parameter tell signals apart. No signal is in the log
twice, then, and none has two outcomes, for the dispatcher never gives a signal
away twice. When the field has stopped, every signal in the log has been sent,
and those that have no outcome are the ones that were put out of the queue.
-/

namespace Vivarium

open AuditLog

/-! ## What there is to see of a run -/

/-- The report of the tick in hand, as long as the log has not got it. -/
def Work.unlogged : Work → Option TickReport
  | .computed report => some report
  | .published report => some report
  | _ => none

/-- Whether the worker's next step adds nothing to what was computed, written or sent. -/
def Work.silent : Work → Bool
  | .drained _ => false
  | .published _ => false
  | .sending _ signals => signals.isEmpty
  | _ => true

/-- The signals that the worker has written down and not sent yet. -/
def Work.unsent : Work → List Signal
  | .sending _ signals => signals
  | _ => []

namespace Field

/-- Everything written so far, whether it is in the log or waits with the recorder. -/
def written (field : Field) : List AuditEntry :=
  field.log ++ field.recorder.elim [] (·.pending)

/-- The actions of a run, each with the field that it is taken in. -/
def moments (field : Field) : List Action → List (Field × Action)
  | [] => []
  | action :: rest => (field, action) :: (field.step action).moments rest

/-- The report of the tick that is computed by an action. -/
def computed (field : Field) : Action → Option TickReport
  | .work _ =>
      match field.work with
      | .drained batch => (field.population.tick (field.feed.verdict batch)).toOption.map (·.1)
      | _ => none
  | _ => none

/-- The block that is written by an action. -/
def entered (field : Field) : Action → Option Block
  | .work now =>
      match field.work with
      | .published report =>
          some (.tick report (field.emitter.evaluate report.snapshot.metrics now).1)
      | _ => none
  | .dispatch sink =>
      match field.dispatch with
      | .applying (signal :: _) => some (.outcome (sink.outcome signal))
      | _ => none
  | _ => none

/-- The reports of the ticks that are computed in the course of a run. -/
def reports (field : Field) (actions : List Action) : List TickReport :=
  (field.moments actions).filterMap fun moment => moment.1.computed moment.2

/-- The blocks that are written in the course of a run. -/
def blocks (field : Field) (actions : List Action) : List Block :=
  (field.moments actions).filterMap fun moment => moment.1.entered moment.2

variable {field after : Field} {recorder : Recorder} {first : Nat} {base : List AuditEntry}
  {blocks : List Block} {reports : List TickReport} {sent evicted : List Signal}

theorem written_record (field : Field) {recorder : Recorder} (h : field.recorder = some recorder)
    (entries : List AuditEntry) :
    (field.record entries).written = field.written ++ recorder.kept entries ∧
      ∃ next, (field.record entries).recorder = some next ∧ next.keeps = recorder.keeps := by
  have took := recorder.recordAll_took entries
  rw [record, h]
  refine ⟨?_, _, rfl, took.settings⟩
  show field.log ++ (recorder.recordAll entries).2.pending ++ [] = _
  rw [took.pending, written, h, List.append_nil, List.append_assoc]
  rfl

/-! ## What is in the log -/

/-- How the log stands to what was computed, sent and delivered so far. -/
structure Logged (recorder : Recorder) (first : Nat) (base : List AuditEntry) (field : Field)
    (blocks : List Block) (reports : List TickReport) (sent : List Signal) : Prop where
  written : field.written = base ++ kept recorder blocks
  settings : ∃ current, field.recorder = some current ∧ current.keeps = recorder.keeps
  ticks : blocks.filterMap Block.report? ++ field.work.unlogged.toList = reports
  numbers : reports.map (·.snapshot.generation) = List.range' (first + 1) reports.length
  generation : field.population.generation = first + reports.length
  dated : ∀ report ∈ reports, report.Dated report.snapshot.generation
  sound : ∀ block ∈ blocks, block.Sound
  signals : blocks.flatMap Block.signals = sent ++ field.work.unsent
  outcomes : List.Forall₂ Outcome.Answers (blocks.filterMap Block.outcome?) field.delivered
  caused : Caused (kept recorder blocks)

/-- Whether two fields agree on everything that the log is about. -/
structure SameLog (a b : Field) : Prop where
  written : b.written = a.written
  recorder : b.recorder = a.recorder
  generation : b.population.generation = a.population.generation
  unlogged : b.work.unlogged = a.work.unlogged
  unsent : b.work.unsent = a.work.unsent
  delivered : b.delivered = a.delivered

theorem Logged.of_same (h : field.Logged recorder first base blocks reports sent)
    (same : field.SameLog after) : after.Logged recorder first base blocks reports sent where
  written := same.written.trans h.written
  settings := by
    rw [same.recorder]
    exact h.settings
  ticks := by
    rw [same.unlogged]
    exact h.ticks
  numbers := h.numbers
  generation := same.generation.trans h.generation
  dated := h.dated
  sound := h.sound
  signals := by
    rw [same.unsent]
    exact h.signals
  outcomes := by
    rw [same.delivered]
    exact h.outcomes
  caused := h.caused

/-! ## A step

Only four of the steps concern the log: a tick is computed, it is written down,
one of its signals is sent, an outcome is written down. -/

theorem numbers_concat {report : TickReport}
    (numbers : reports.map (·.snapshot.generation) = List.range' (first + 1) reports.length)
    (number : report.snapshot.generation = first + reports.length + 1) :
    (reports ++ [report]).map (·.snapshot.generation) =
      List.range' (first + 1) (reports ++ [report]).length := by
  rw [List.map_append, numbers, List.length_append, List.length_singleton, List.range'_1_concat,
    List.map_singleton, number]
  congr 2
  omega

theorem Logged.computed {report : TickReport} {population : Population} {batch : List Observation}
    (h : field.Logged recorder first base blocks reports sent)
    (stage : field.work = .drained batch)
    (tick : field.population.tick (field.feed.verdict batch) = .ok (report, population)) :
    { field with population, work := .computed report }.Logged recorder first base blocks
      (reports ++ [report]) sent := by
  obtain ⟨dated, hgeneration⟩ := Population.tick_dated tick
  have hticks := h.ticks
  rw [stage] at hticks
  rw [h.generation] at dated hgeneration
  refine ⟨h.written, h.settings, ?_, numbers_concat h.numbers dated.generation, ?_, ?_, h.sound,
    ?_, h.outcomes, h.caused⟩
  · rw [← hticks]
    exact congrArg (· ++ [report]) (List.append_nil _).symm
  · rw [List.length_append, List.length_singleton]
    exact hgeneration
  · intro other hother
    rcases List.mem_append.mp hother with hmem | hmem
    · exact h.dated other hmem
    · rw [List.mem_singleton.mp hmem, dated.generation]
      exact dated
  · have hsignals := h.signals
    rw [stage] at hsignals
    exact hsignals

/-- How a block that is written changes what the log is about: it is recorded, a tick in it is no
longer waited for, its signals are yet to be sent, and an outcome in it is that of a delivery. -/
structure Writes (field : Field) (block : Block) (after : Field) : Prop where
  recorded : field.record block.entries =
    { field with recorder := after.recorder, log := after.log }
  generation : after.population.generation = field.population.generation
  unlogged : block.report?.toList ++ after.work.unlogged.toList = field.work.unlogged.toList
  unsent : after.work.unsent = field.work.unsent ++ block.signals
  delivered : ∃ more, after.delivered = field.delivered ++ more ∧
    List.Forall₂ Outcome.Answers block.outcome?.toList more

theorem Logged.wrote {block : Block} (h : field.Logged recorder first base blocks reports sent)
    (writes : field.Writes block after) (sound : block.Sound)
    (causes : ∀ outcome, block.outcome? = some outcome →
      ∃ signal : Signal, .signal signal ∈ kept recorder blocks ∧ outcome.Answers signal) :
    after.Logged recorder first base (blocks ++ [block]) reports sent := by
  obtain ⟨current, hcurrent, hsettings⟩ := h.settings
  obtain ⟨hwritten, next, hnext, hkeeps⟩ := field.written_record hcurrent block.entries
  obtain ⟨more, hdelivered, hanswers⟩ := writes.delivered
  rw [writes.recorded] at hwritten hnext
  change after.written = _ at hwritten
  constructor
  case written =>
    rw [hwritten, h.written, Recorder.kept_congr hsettings, kept_concat, List.append_assoc]
  case settings => exact ⟨next, hnext, hkeeps.trans hsettings⟩
  case ticks =>
    rw [List.filterMap_append, List.filterMap_eq_flatMap_toList _ [block], List.flatMap_singleton,
      List.append_assoc, writes.unlogged]
    exact h.ticks
  case numbers => exact h.numbers
  case generation => exact writes.generation.trans h.generation
  case dated => exact h.dated
  case sound =>
    exact List.forall_mem_append.mpr ⟨h.sound, List.forall_mem_singleton.mpr sound⟩
  case signals =>
    rw [List.flatMap_append, List.flatMap_singleton, h.signals, writes.unsent, List.append_assoc]
  case outcomes =>
    rw [List.filterMap_append, List.filterMap_eq_flatMap_toList _ [block], List.flatMap_singleton,
      hdelivered]
    exact List.rel_append h.outcomes hanswers
  case caused => exact h.caused.concat causes

theorem sound_reply {report : TickReport} (dated : report.Dated report.snapshot.generation)
    (emitter : Emitter) (now : Timestamp) :
    (AuditLog.Block.tick report (emitter.reply ⟨report.snapshot.metrics, now⟩)).Sound where
  dated other hother := by
    cases hother
    exact dated
  sent other hother signal hsignal := by
    cases hother
    exact (Emitter.reply_tick _ _ signal hsignal).trans dated.metrics
  distinct := Emitter.reply_parameters_nodup _ _

theorem Logged.settled {report : TickReport} {signals : List Signal} {emitter : Emitter}
    {current : Option Recorder} {log : List AuditEntry} {now : Timestamp}
    (h : field.Logged recorder first base blocks reports sent)
    (stage : field.work = .published report)
    (evaluated : field.emitter.evaluate report.snapshot.metrics now = (signals, emitter))
    (recorded : field.record (report.entries ++ signals.map .signal) =
      { field with recorder := current, log }) :
    { field with
      recorder := current
      log
      emitter
      work := .sending report.snapshot.generation signals }.Logged recorder first base
      (blocks ++ [AuditLog.Block.tick report signals]) reports sent := by
  have hreply : field.emitter.reply ⟨report.snapshot.metrics, now⟩ = signals := by
    rw [Emitter.reply, evaluated]
  have hreport : report ∈ reports := by
    rw [← h.ticks, stage]
    exact List.mem_append_right _ List.mem_cons_self
  have sound := sound_reply (h.dated report hreport) field.emitter now
  rw [hreply] at sound
  refine h.wrote ?_ sound (fun _ => nofun)
  constructor
  case recorded => exact recorded
  case generation => rfl
  case unlogged | unsent => rw [stage]; rfl
  case delivered => exact ⟨[], (List.append_nil _).symm, .nil⟩

theorem Logged.forwarded {generation : Nat} {signal : Signal} {rest : List Signal}
    (h : field.Logged recorder first base blocks reports sent)
    (stage : field.work = .sending generation (signal :: rest)) :
    { field with
      emitted := field.emitted + 1
      signals := (field.signals.push signal).2
      work := .sending generation rest }.Logged recorder first base blocks reports
      (sent ++ [signal]) := by
  have hticks := h.ticks
  have hsignals := h.signals
  rw [stage] at hticks hsignals
  refine ⟨h.written, h.settings, hticks, h.numbers, h.generation, h.dated, h.sound, ?_, h.outcomes,
    h.caused⟩
  rw [hsignals, List.append_assoc]
  rfl

/-- What the dispatcher has in hand has been sent, and so it is in the log. -/
theorem Logged.mem_of_inHand (h : field.Logged recorder first base blocks reports sent)
    (accounted : field.Accounted sent evicted) {signal : Signal}
    (hsignal : signal ∈ field.dispatch.inHand) : .signal signal ∈ kept recorder blocks := by
  obtain ⟨passed, hsent, hplaces⟩ := accounted.places
  have hpassed := hplaces.sublist_left.subset (List.mem_append_right _ hsignal)
  have hmem : signal ∈ blocks.flatMap Block.signals := by
    rw [h.signals, hsent]
    exact List.mem_append_left _ (List.mem_append_left _ hpassed)
  rw [← filterMap_signal?_kept recorder] at hmem
  obtain ⟨entry, hentry, hsome⟩ := List.mem_filterMap.mp hmem
  cases entry with
  | signal other =>
      cases hsome
      exact hentry
  | observation | fitness | outcome | lineage => cases hsome

theorem Logged.delivered {sink : Sink} {signal : Signal} {rest : List Signal}
    {current : Option Recorder} {log : List AuditEntry}
    (h : field.Logged recorder first base blocks reports sent)
    (accounted : field.Accounted sent evicted)
    (stage : field.dispatch = .applying (signal :: rest))
    (recorded : field.record [.outcome (sink.outcome signal)] =
      { field with recorder := current, log }) :
    { field with
      recorder := current
      log
      applied := field.applied + if (sink.outcome signal).success then 1 else 0
      failed := field.failed + if (sink.outcome signal).success then 0 else 1
      delivered := field.delivered ++ [signal]
      dispatch := .applying rest }.Logged recorder first base
      (blocks ++ [AuditLog.Block.outcome (sink.outcome signal)]) reports sent := by
  have answers := sink.outcome_answers signal
  have hlogged : .signal signal ∈ kept recorder blocks := by
    refine h.mem_of_inHand accounted ?_
    rw [stage]
    exact List.mem_cons_self
  refine h.wrote ?_ (AuditLog.Block.sound_outcome _) fun outcome houtcome => ?_
  · constructor
    case recorded => exact recorded
    case generation => rfl
    case unlogged => exact List.nil_append _
    case unsent => exact (List.append_nil _).symm
    case delivered => exact ⟨[signal], rfl, .cons answers .nil⟩
  · cases houtcome
    exact ⟨signal, hlogged, answers⟩

theorem computed_of_work {stage : Work} (hstage : field.work = stage)
    (hstage' : ∀ batch, stage ≠ .drained batch) (now : Timestamp) :
    field.computed (.work now) = none := by
  rw [Field.computed, hstage]
  cases stage with
  | drained batch => exact absurd rfl (hstage' batch)
  | idle | computed | published | sending | faulted | stopped => rfl

theorem entered_of_work {stage : Work} (hstage : field.work = stage)
    (hstage' : ∀ report, stage ≠ .published report) (now : Timestamp) :
    field.entered (.work now) = none := by
  rw [entered, hstage]
  cases stage with
  | published report => exact absurd rfl (hstage' report)
  | idle | drained | computed | sending | faulted | stopped => rfl

theorem computed_of_drained {batch : List Observation} (stage : field.work = .drained batch)
    (now : Timestamp) : field.computed (.work now) =
      (field.population.tick (field.feed.verdict batch)).toOption.map (·.1) := by
  rw [Field.computed, stage]

theorem entered_of_published {report : TickReport} (stage : field.work = .published report)
    (now : Timestamp) : field.entered (.work now) =
      some (.tick report (field.emitter.evaluate report.snapshot.metrics now).1) := by
  rw [entered, stage]

theorem entered_of_applying {signal : Signal} {rest : List Signal}
    (stage : field.dispatch = .applying (signal :: rest)) (sink : Sink) :
    field.entered (.dispatch sink) = some (.outcome (sink.outcome signal)) := by
  rw [entered, stage]

theorem entered_of_dispatch {stage : Dispatch} (hstage : field.dispatch = stage)
    (hstage' : stage.inHand = []) (sink : Sink) : field.entered (.dispatch sink) = none := by
  rw [entered, hstage]
  cases stage with
  | applying batch =>
      cases hstage'
      rfl
  | waiting | awake | undecided | finished => rfl

/-- Whether an action adds nothing to the blocks, the reports and the signals of a run. -/
structure Silent (field : Field) (action : Action) : Prop where
  entered : field.entered action = none
  computed : field.computed action = none
  emission : field.emission action = none

theorem silent_of_work {stage : Work} (hstage : field.work = stage)
    (hsilent : stage.silent = true) (now : Timestamp) : field.Silent (.work now) where
  entered := entered_of_work hstage (by rintro _ rfl; cases hsilent) now
  computed := computed_of_work hstage (by rintro _ rfl; cases hsilent) now
  emission := by
    rw [emission_of_work hstage]
    cases stage with
    | sending generation signals =>
        cases signals with
        | nil => rfl
        | cons signal rest => cases hsilent
    | idle | drained | computed | published | faulted | stopped => rfl

theorem silent_of_fault {batch : List Observation} {fault : Fault}
    (stage : field.work = .drained batch)
    (tick : field.population.tick (field.feed.verdict batch) = .error fault) (now : Timestamp) :
    field.Silent (.work now) where
  entered := entered_of_work stage (fun _ => Work.noConfusion) now
  computed := by
    rw [computed_of_drained stage, tick]
    rfl
  emission := emission_of_work stage now

theorem silent_of_dispatch {stage : Dispatch} (hstage : field.dispatch = stage)
    (hstage' : stage.inHand = []) (sink : Sink) : field.Silent (.dispatch sink) :=
  ⟨entered_of_dispatch hstage hstage' sink, rfl, rfl⟩

/-- An action that the log does not see. -/
theorem Logged.unseen {action : Action} (silent : field.Silent action)
    (h : field.Logged recorder first base blocks reports sent) (same : field.SameLog after) :
    after.Logged recorder first base (blocks ++ (field.entered action).toList)
      (reports ++ (field.computed action).toList) (sent ++ (field.emission action).toList) := by
  rw [silent.entered, silent.computed, silent.emission, Option.toList_none, Option.toList_none,
    Option.toList_none, List.append_nil, List.append_nil, List.append_nil]
  exact h.of_same same

theorem Logged.step (h : field.Logged recorder first base blocks reports sent)
    (accounted : field.Accounted sent evicted) {action : Action}
    (steps : field.Steps action after) :
    after.Logged recorder first base (blocks ++ (field.entered action).toList)
      (reports ++ (field.computed action).toList) (sent ++ (field.emission action).toList) := by
  cases steps with
  | observe | closeFeed | requestStop | close | keepOpen =>
    exact h.unseen ⟨rfl, rfl, rfl⟩ ⟨rfl, rfl, rfl, rfl, rfl, rfl⟩
  | stop stage | poll stage | publish stage | announce stage =>
    exact h.unseen (silent_of_work stage rfl _)
      ⟨rfl, rfl, rfl, by rw [stage]; rfl, by rw [stage]; rfl, rfl⟩
  | broken stage | atRest stage =>
    exact h.unseen (silent_of_work stage rfl _)
      ⟨rfl, rfl, rfl, rfl, rfl, rfl⟩
  | fault stage tick =>
    exact h.unseen (silent_of_fault stage tick _)
      ⟨rfl, rfl, rfl, by rw [stage]; rfl, by rw [stage]; rfl, rfl⟩
  | compute stage tick =>
    simp only [entered_of_work stage (fun _ => Work.noConfusion), emission_of_work stage,
      Work.upcoming, Option.toList_none, List.append_nil]
    rw [computed_of_drained stage, tick]
    exact h.computed stage tick
  | settle stage evaluated recorded =>
    simp only [computed_of_work stage (fun _ => Work.noConfusion), emission_of_work stage,
      Work.upcoming, Option.toList_none, List.append_nil]
    rw [entered_of_published stage, evaluated]
    exact h.settled stage evaluated recorded
  | send stage =>
    simp only [entered_of_work stage (fun _ => Work.noConfusion),
      computed_of_work stage (fun _ => Work.noConfusion), Option.toList_none, List.append_nil]
    rw [emission_of_work stage]
    exact h.forwarded stage
  | sleep stage | retired stage | wake stage | miss stage | collect stage | finish stage
  | goOn stage | batchDone stage =>
    exact h.unseen (silent_of_dispatch stage rfl _) ⟨rfl, rfl, rfl, rfl, rfl, rfl⟩
  | deliver stage recorded =>
    simp only [show field.computed (.dispatch _) = none from rfl,
      show field.emission (.dispatch _) = none from rfl, Option.toList_none, List.append_nil]
    rw [entered_of_applying stage]
    exact h.delivered accounted stage recorded

/-! ## A whole run -/

theorem blocks_cons (field : Field) (action : Action) (rest : List Action) :
    field.blocks (action :: rest) =
      (field.entered action).toList ++ (field.step action).blocks rest := by
  rw [Field.blocks, Field.blocks, List.filterMap_eq_flatMap_toList,
    List.filterMap_eq_flatMap_toList, moments, List.flatMap_cons]

theorem reports_cons (field : Field) (action : Action) (rest : List Action) :
    field.reports (action :: rest) =
      (field.computed action).toList ++ (field.step action).reports rest := by
  rw [Field.reports, Field.reports, List.filterMap_eq_flatMap_toList,
    List.filterMap_eq_flatMap_toList, moments, List.flatMap_cons]

theorem Logged.run (h : field.Logged recorder first base blocks reports sent)
    (accounted : field.Accounted sent evicted) (actions : List Action) :
    (field.run actions).Logged recorder first base (blocks ++ field.blocks actions)
      (reports ++ field.reports actions) (sent ++ field.emissions actions) := by
  induction actions generalizing field blocks reports sent evicted with
  | nil =>
      rw [Field.blocks, Field.reports, emissions, seen, moments, List.filterMap_nil,
        List.filterMap_nil, List.append_nil, List.append_nil, List.append_nil]
      exact h
  | cons action rest ih =>
      have steps := step_steps field action
      have hrest := ih (h.step accounted steps) (accounted.step steps)
      rw [List.append_assoc, List.append_assoc, List.append_assoc] at hrest
      rw [blocks_cons, reports_cons]
      exact hrest

theorem spawned_logged (population : Population) (emitter : Emitter) (feed : Queue Observation)
    (capacity : Nat) (recorder : Recorder) :
    (spawned population emitter feed capacity (some recorder)).Logged recorder
      population.generation recorder.pending [] [] [] where
  written := (List.append_nil _).symm
  settings := ⟨recorder, rfl, rfl⟩
  ticks := rfl
  numbers := rfl
  generation := rfl
  dated := fun _ hreport => absurd hreport List.not_mem_nil
  sound := fun _ hblock => absurd hblock List.not_mem_nil
  signals := rfl
  outcomes := .nil
  caused := fun _ _ hposition => by cases hposition

/-! ## What tells signals apart -/

/-- The signals of a block differ in what they are about. -/
theorem nodup_keys_of_sound {block : Block} (sound : block.Sound) :
    (block.signals.map Signal.key).Nodup := by
  refine List.Nodup.of_map Prod.snd ?_
  rw [List.map_map]
  exact sound.distinct

/-- The signals of different blocks differ in their ticks. -/
theorem Logged.nodup_keys (h : field.Logged recorder first base blocks reports sent) :
    ((blocks.flatMap Block.signals).map Signal.key).Nodup := by
  have hnumbers : ((blocks.filterMap Block.report?).map (·.snapshot.generation)).Nodup := by
    have hall : (reports.map (·.snapshot.generation)).Nodup := by
      rw [h.numbers]
      exact List.nodup_range'
    rw [← h.ticks, List.map_append] at hall
    exact (List.nodup_append.mp hall).1
  -- Within one block parameters tell the signals apart, between two blocks the ticks do.
  have happart := List.pairwise_filterMap.mp (List.pairwise_map.mp hnumbers)
  rw [List.map_flatMap, List.nodup_flatMap]
  refine ⟨fun block hblock => nodup_keys_of_sound (h.sound block hblock), ?_⟩
  refine happart.imp_of_mem fun {a b} ha hb hne => ?_
  rw [Function.onFun, List.disjoint_left]
  intro key hkey hkey'
  obtain ⟨signal, hsignal, rfl⟩ := List.mem_map.mp hkey
  obtain ⟨other, hother, hsame⟩ := List.mem_map.mp hkey'
  cases hreport : a.report? with
  | none =>
      rw [Block.signals_of_report?_eq_none hreport] at hsignal
      cases hsignal
  | some report =>
      cases hreport' : b.report? with
      | none =>
          rw [Block.signals_of_report?_eq_none hreport'] at hother
          cases hother
      | some report' =>
          refine hne report hreport report' hreport' ?_
          rw [← (h.sound a ha).sent report hreport signal hsignal,
            ← (h.sound b hb).sent report' hreport' other hother]
          exact (congrArg Prod.fst hsame).symm

theorem keys_eq_of_answers {outcomes : List Outcome} {signals : List Signal}
    (h : List.Forall₂ Outcome.Answers outcomes signals) :
    outcomes.map Outcome.key = signals.map Signal.key := by
  induction h with
  | nil => rfl
  | cons answers _ ih => rw [List.map_cons, List.map_cons, answers.key_eq, ih]

/-! ## The order -/

/-- What is promised of a log, given what was computed, written and put out. -/
structure InOrder (field : Field) (recorder : Recorder) (first : Nat) (blocks : List Block)
    (reports : List TickReport) (evicted : List Signal) : Prop where
  written : field.written = recorder.pending ++ kept recorder blocks
  ticks : blocks.filterMap Block.report? ++ field.work.unlogged.toList = reports
  numbers : reports.map (·.snapshot.generation) = List.range' (first + 1) reports.length
  dated : ∀ block ∈ blocks, ∀ report, block.report? = some report →
    ∀ entry ∈ block.entries, ∀ tick, entry.tick? = some tick → tick = report.snapshot.generation
  caused : Caused (kept recorder blocks)
  signalsOnce : (((kept recorder blocks).filterMap AuditEntry.signal?).map Signal.key).Nodup
  outcomesOnce : (((kept recorder blocks).filterMap AuditEntry.outcome?).map Outcome.key).Nodup
  answered : List.Forall₂ Outcome.Answers ((kept recorder blocks).filterMap AuditEntry.outcome?)
    field.delivered
  ended : field.dispatch = .finished → field.work.unlogged = none ∧
    ((kept recorder blocks).filterMap AuditEntry.signal?).filter (fun signal =>
      signal.key ∉ ((kept recorder blocks).filterMap AuditEntry.outcome?).map Outcome.key) =
        evicted

theorem Logged.inOrder (h : field.Logged recorder first recorder.pending blocks reports sent)
    (accounted : field.Accounted sent evicted) :
    field.InOrder recorder first blocks reports evicted := by
  have hnodup := h.nodup_keys
  have hdelivered : (field.delivered.map Signal.key).Nodup := by
    rw [h.signals, List.map_append] at hnodup
    exact (accounted.delivered_sublist.map Signal.key).nodup (List.nodup_append.mp hnodup).1
  refine ⟨h.written, h.ticks, h.numbers, fun block hblock report hreport =>
    (h.sound block hblock).tick_of_mem hreport, h.caused, ?_, ?_, ?_, fun finished => ?_⟩
  · rw [filterMap_signal?_kept]
    exact hnodup
  · rw [filterMap_outcome?_kept, keys_eq_of_answers h.outcomes]
    exact hdelivered
  · rw [filterMap_outcome?_kept]
    exact h.outcomes
  · obtain ⟨hstopped, hplaces⟩ := accounted.ended finished
    rw [filterMap_signal?_kept, filterMap_outcome?_kept, keys_eq_of_answers h.outcomes, h.signals,
      hstopped]
    rw [h.signals, hstopped] at hnodup
    have hsent : sent ++ Work.unsent .stopped = sent := List.append_nil _
    rw [hsent] at hnodup ⊢
    have hperm := (hplaces.perm.map Signal.key).nodup_iff.mp hnodup
    rw [List.map_append] at hperm
    have hdisjoint := List.disjoint_of_nodup_append hperm
    refine ⟨rfl, hplaces.filter_eq_right (fun signal hsignal => ?_) fun signal hsignal => ?_⟩
    · exact decide_eq_false (not_not_intro (List.mem_map_of_mem hsignal))
    · exact decide_eq_true fun hkey => hdisjoint hkey (List.mem_map_of_mem hsignal)

theorem log_in_order (population : Population) (emitter : Emitter) (feed : Queue Observation)
    (capacity : Nat) (recorder : Recorder) (actions : List Action) :
    ((spawned population emitter feed capacity (some recorder)).run actions).InOrder recorder
      population.generation
      ((spawned population emitter feed capacity (some recorder)).blocks actions)
      ((spawned population emitter feed capacity (some recorder)).reports actions)
      ((spawned population emitter feed capacity (some recorder)).evictions actions) := by
  have accounted := spawned_accounted population emitter feed capacity (some recorder)
  have logged := spawned_logged population emitter feed capacity recorder
  exact (logged.run accounted actions).inOrder (accounted.run actions)

/-- The first of two signals is put out by the second, and has no outcome. -/
example : (({ crowded with recorder := some {} } : Field).run oneTick).dispatch = .finished ∧
    (({ crowded with recorder := some {} } : Field).evictions oneTick).map Signal.key =
      [(1, "a")] := by
  decide +kernel

end Field

end Vivarium
