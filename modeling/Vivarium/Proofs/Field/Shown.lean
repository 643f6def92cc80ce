import Vivarium.Proofs.Field.Log
import Vivarium.Proofs.Population.Invariant

/-!
# What is shown and announced

The worker brings out a tick in an order of its own: the snapshot first, then
the entries in the log, then the signals, and last the generation. In between
the outside sees part of it. Which part is settled by the work in hand: between
two ticks everything is as far as the announcement, and in the middle of one the
generations differ by at most one, so that whatever belongs to a tick up to the
announced one has been told and sent.

`Stage` says this in one place. The ticks that are `done` give the reports, what
was told and what was sent, but for the tick in hand, which has a constructor of
its own in each stage that it goes through. None of the steps of the dispatcher
or of those who feed and stop the field touches any of it.
-/

namespace Vivarium

open AuditLog

/-! ## Where the worker is -/

/-- A tick with the signals that it is about to send, if a block is about one. -/
def AuditLog.Block.tick? : Block → Option (TickReport × List Signal)
  | .tick report signals => some (report, signals)
  | .outcome _ => none

/-- Whether the worker has no computed tick in hand. -/
def Work.clear : Work → Bool
  | .idle => true
  | .drained _ => true
  | .faulted _ => true
  | .stopped => true
  | _ => false

theorem infix_flatMap (f : α → List β) {a : α} {items : List α} (h : a ∈ items) :
    f a <:+: items.flatMap f :=
  List.infix_of_mem_flatten (List.mem_map_of_mem h)

namespace Field

/-- The ticks that have been written down in a run, each with its signals. -/
def told (field : Field) (actions : List Action) : List (TickReport × List Signal) :=
  (field.blocks actions).filterMap Block.tick?

/-- How far the generations that are shown, announced and computed have come after some ticks are
`done`, what was told, computed and sent by then, and what work is in hand. -/
inductive Stage (shown announced computed : Nat) (done : List (TickReport × List Signal)) :
    List (TickReport × List Signal) → List TickReport → List Signal → Work → Prop where
  | between {work : Work} (clear : work.clear = true) (hshown : shown = announced)
      (hcomputed : computed = announced) :
      Stage shown announced computed done done (done.map (·.1)) (done.flatMap (·.2)) work
  | computed {report : TickReport} (number : report.snapshot.generation = announced + 1)
      (hshown : shown = announced) (hcomputed : computed = announced + 1) :
      Stage shown announced computed done done (done.map (·.1) ++ [report]) (done.flatMap (·.2))
        (.computed report)
  | published {report : TickReport} (number : report.snapshot.generation = announced + 1)
      (hshown : shown = announced + 1) (hcomputed : computed = announced + 1) :
      Stage shown announced computed done done (done.map (·.1) ++ [report]) (done.flatMap (·.2))
        (.published report)
  | sending {report : TickReport} {sent rest : List Signal}
      (number : report.snapshot.generation = announced + 1)
      (hshown : shown = announced + 1) (hcomputed : computed = announced + 1) :
      Stage shown announced computed done (done ++ [(report, sent ++ rest)])
        (done.map (·.1) ++ [report]) (done.flatMap (·.2) ++ sent)
        (.sending report.snapshot.generation rest)

variable {told done : List (TickReport × List Signal)} {reports : List TickReport}
  {sent : List Signal} {report : TickReport}

section

variable {shown announced number : Nat} {work next : Work}

theorem Stage.of_clear (h : Stage shown announced number done told reports sent work)
    (hwork : work.clear = true) :
    told = done ∧ reports = done.map (·.1) ∧ sent = done.flatMap (·.2) ∧ shown = announced ∧
      number = announced := by
  cases h with
  | between _ hshown hcomputed => exact ⟨rfl, rfl, rfl, hshown, hcomputed⟩
  | computed | published | sending => cases hwork

theorem Stage.announced_le (h : Stage shown announced number done told reports sent work) :
    announced ≤ shown := by
  cases h with
  | between | computed | published | sending => omega

/-- Whatever a tick up to the announced one had to say has been told and sent. -/
theorem Stage.spoken (h : Stage shown announced number done told reports sent work)
    (hreport : report ∈ reports) (hle : report.snapshot.generation ≤ announced) :
    ∃ signals, (report, signals) ∈ told ∧ signals <:+: sent := by
  have hdone : report ∈ done.map (·.1) := by
    cases h with
    | between => exact hreport
    | computed hlast | published hlast | sending hlast =>
      -- the tick in hand is not announced yet
      rcases List.mem_append.mp hreport with hmem | hmem
      · exact hmem
      · rw [List.mem_singleton.mp hmem] at hle
        omega
  obtain ⟨⟨_, signals⟩, hmem, rfl⟩ := List.mem_map.mp hdone
  have hinfix : signals <:+: done.flatMap (·.2) := infix_flatMap (·.2) hmem
  cases h with
  | between | computed | published => exact ⟨signals, hmem, hinfix⟩
  | sending =>
      exact ⟨signals, List.mem_append_left _ hmem, hinfix.trans (List.prefix_append _ _).isInfix⟩

theorem Stage.turn (h : Stage shown announced number done told reports sent work)
    (hwork : work.clear = true) (hnext : next.clear = true) :
    Stage shown announced number done told reports sent next := by
  obtain ⟨rfl, rfl, rfl, hshown, hnumber⟩ := h.of_clear hwork
  exact .between hnext hshown hnumber

theorem Stage.compute (h : Stage shown announced number done told reports sent work)
    (hwork : work.clear = true) (hreport : report.snapshot.generation = number + 1) :
    Stage shown announced (number + 1) done told (reports ++ [report]) sent (.computed report) := by
  obtain ⟨rfl, rfl, rfl, hshown, rfl⟩ := h.of_clear hwork
  exact .computed hreport hshown rfl

theorem Stage.publish (h : Stage shown announced number done told reports sent (.computed report)) :
    shown ≤ report.snapshot.generation ∧ report ∈ reports ∧
      Stage report.snapshot.generation announced number done told reports sent
        (.published report) := by
  cases h with
  | between clear => cases clear
  | computed hreport hshown hnumber =>
      exact ⟨by omega, List.mem_append_right _ List.mem_cons_self,
        .published hreport hreport hnumber⟩

theorem Stage.settle (h : Stage shown announced number done told reports sent (.published report))
    (signals : List Signal) : Stage shown announced number done (told ++ [(report, signals)])
      reports sent (.sending report.snapshot.generation signals) := by
  cases h with
  | between clear => cases clear
  | published hreport hshown hnumber =>
      have hsending := @Stage.sending shown announced number told report [] signals hreport hshown
        hnumber
      rw [List.append_nil] at hsending
      exact hsending

theorem Stage.send {signal : Signal} {rest : List Signal} {generation : Nat}
    (h : Stage shown announced number done told reports sent
      (.sending generation (signal :: rest))) :
    Stage shown announced number done told reports (sent ++ [signal])
      (.sending generation rest) := by
  cases h with
  | between clear => cases clear
  | @sending report sent _ hreport hshown hnumber =>
      rw [List.append_cons sent, List.append_assoc (done.flatMap _)]
      exact .sending hreport hshown hnumber

theorem Stage.announce {generation : Nat}
    (h : Stage shown announced number done told reports sent (.sending generation [])) :
    announced ≤ generation ∧ (∃ report ∈ reports, generation = report.snapshot.generation) ∧
      Stage shown generation number told told reports sent .idle := by
  cases h with
  | between clear => cases clear
  | @sending report sent _ hreport hshown hnumber =>
      refine ⟨by omega, ⟨report, List.mem_append_right _ List.mem_cons_self, rfl⟩, ?_⟩
      have hbetween : Stage shown report.snapshot.generation number
          (done ++ [(report, sent)]) _ _ _ .idle := .between rfl (by omega) (by omega)
      rw [List.map_append, List.flatMap_append] at hbetween
      simpa using hbetween

end

/-! ## What readers can rely on -/

/-- What readers can rely on, given what was told, computed and sent since the start. -/
structure Shown (field start : Field) (told : List (TickReport × List Signal))
    (reports : List TickReport) (sent : List Signal) : Prop where
  stage : ∃ done, Stage field.snapshot.generation field.announced field.population.generation done
    told reports sent field.work
  config : field.population.config = start.population.config
  shown : field.snapshot ∈ start.snapshot :: reports.map (·.snapshot)
  heard : ∃ snapshot ∈ start.snapshot :: reports.map (·.snapshot),
    field.announced = snapshot.generation
  numbers : reports.map (·.snapshot.generation) =
    List.range' (start.population.generation + 1) reports.length
  count : field.population.generation = start.population.generation + reports.length
  whole : ∀ report ∈ reports, report.snapshot.Whole start.population.config.population.maxSize
  flushed : told ≠ [] → ∀ recorder ∈ field.recorder, recorder.pending = []

/-- Whether readers find no difference between two fields. -/
structure SameShow (a b : Field) : Prop where
  snapshot : b.snapshot = a.snapshot
  announced : b.announced = a.announced
  population : b.population = a.population
  recorder : b.recorder = a.recorder
  work : b.work = a.work ∨ a.work.clear = true ∧ b.work.clear = true

variable {field after start : Field}

theorem Shown.of_same (h : field.Shown start told reports sent) (same : field.SameShow after) :
    after.Shown start told reports sent := by
  obtain ⟨done, stage⟩ := h.stage
  constructor
  case stage =>
    rw [same.snapshot, same.announced, same.population]
    rcases same.work with hwork | ⟨hbefore, hafter⟩
    · exact ⟨done, hwork ▸ stage⟩
    · exact ⟨done, stage.turn hbefore hafter⟩
  case config =>
    rw [same.population]
    exact h.config
  case shown =>
    rw [same.snapshot]
    exact h.shown
  case heard =>
    rw [same.announced]
    exact h.heard
  case numbers => exact h.numbers
  case count =>
    rw [same.population]
    exact h.count
  case whole => exact h.whole
  case flushed =>
    rw [same.recorder]
    exact h.flushed

/-- A recorder that has written something down has nothing left to write. -/
theorem pending_of_record {entries : List AuditEntry} {current : Option Recorder}
    {log : List AuditEntry}
    (recorded : field.record entries = { field with recorder := current, log }) :
    ∀ recorder ∈ current, recorder.pending = [] := by
  intro recorder hrecorder
  have hcurrent : (field.record entries).recorder = some recorder := by
    rw [recorded]
    exact hrecorder
  rw [record] at hcurrent
  cases hfield : field.recorder with
  | none =>
      rw [hfield] at hcurrent
      cases hfield.symm.trans hcurrent
  | some before =>
      rw [hfield] at hcurrent
      cases hcurrent
      rfl

/-! ## A step -/

theorem Shown.computed {population : Population} {batch : List Observation}
    (h : field.Shown start told reports sent) (stage : field.work = .drained batch)
    (tick : field.population.tick (field.feed.verdict batch) = .ok (report, population)) :
    { field with population, work := .computed report }.Shown start told (reports ++ [report])
      sent := by
  obtain ⟨dated, hgeneration⟩ := Population.tick_dated tick
  obtain ⟨hconfig, -⟩ := Population.config_of_tick tick
  obtain ⟨whole, -⟩ := Population.whole_of_tick tick
  obtain ⟨done, hstage⟩ := h.stage
  obtain ⟨snapshot, hsnapshot, hheard⟩ := h.heard
  have hsub : start.snapshot :: reports.map (·.snapshot) ⊆
      start.snapshot :: (reports ++ [report]).map (·.snapshot) := by
    rw [List.map_append]
    exact List.cons_subset_cons _ (List.subset_append_left _ _)
  have hclear : field.work.clear = true := by rw [stage]; rfl
  have hnumber := dated.generation
  rw [h.config] at whole
  refine ⟨⟨done, ?_⟩, hconfig.trans h.config, hsub h.shown, ⟨snapshot, hsub hsnapshot, hheard⟩,
    numbers_concat h.numbers ?_, ?_, ?_, h.flushed⟩
  · have hnext := hstage.compute hclear hnumber
    rw [← hgeneration] at hnext
    exact hnext
  · rw [hnumber, h.count]
  · show population.generation = _
    rw [hgeneration, h.count, List.length_append, List.length_singleton]
    rfl
  · rw [List.forall_mem_append, List.forall_mem_singleton]
    exact ⟨h.whole, whole⟩

theorem Shown.published (h : field.Shown start told reports sent)
    (stage : field.work = .computed report) :
    { field with snapshot := report.snapshot, work := .published report }.Shown start told reports
      sent := by
  obtain ⟨done, hstage⟩ := h.stage
  rw [stage] at hstage
  obtain ⟨-, hreport, hnext⟩ := hstage.publish
  exact { h with
    stage := ⟨done, hnext⟩
    shown := List.mem_cons_of_mem _ (List.mem_map_of_mem hreport) }

theorem Shown.settled {signals : List Signal} {emitter : Emitter} {current : Option Recorder}
    {log : List AuditEntry} (h : field.Shown start told reports sent)
    (stage : field.work = .published report)
    (recorded : field.record (report.entries ++ signals.map .signal) =
      { field with recorder := current, log }) :
    { field with
      recorder := current
      log
      emitter
      work := .sending report.snapshot.generation signals }.Shown start
      (told ++ [(report, signals)]) reports sent := by
  obtain ⟨done, hstage⟩ := h.stage
  rw [stage] at hstage
  exact { h with
    stage := ⟨done, hstage.settle signals⟩
    flushed := fun _ => pending_of_record recorded }

theorem Shown.forwarded {generation : Nat} {signal : Signal} {rest : List Signal}
    (h : field.Shown start told reports sent)
    (stage : field.work = .sending generation (signal :: rest)) :
    { field with
      emitted := field.emitted + 1
      signals := (field.signals.push signal).2
      work := .sending generation rest }.Shown start told reports (sent ++ [signal]) := by
  obtain ⟨done, hstage⟩ := h.stage
  rw [stage] at hstage
  exact { h with stage := ⟨done, hstage.send⟩ }

theorem Shown.announced {generation : Nat} (h : field.Shown start told reports sent)
    (stage : field.work = .sending generation []) :
    { field with announced := generation, work := .idle }.Shown start told reports sent := by
  obtain ⟨done, hstage⟩ := h.stage
  rw [stage] at hstage
  obtain ⟨-, ⟨report, hreport, hgeneration⟩, hnext⟩ := hstage.announce
  exact { h with
    stage := ⟨told, hnext⟩
    heard := ⟨_, List.mem_cons_of_mem _ (List.mem_map_of_mem hreport), hgeneration⟩ }

theorem Shown.silent {action : Action} (silent : field.Silent action)
    (h : after.Shown start told reports sent) :
    after.Shown start (told ++ (field.entered action).toList.filterMap Block.tick?)
      (reports ++ (field.computed action).toList) (sent ++ (field.emission action).toList) := by
  rw [silent.entered, silent.computed, silent.emission, Option.toList_none, Option.toList_none,
    Option.toList_none, List.filterMap_nil, List.append_nil, List.append_nil, List.append_nil]
  exact h

theorem Shown.step (h : field.Shown start told reports sent) {action : Action}
    (steps : field.Steps action after) :
    after.Shown start (told ++ (field.entered action).toList.filterMap Block.tick?)
      (reports ++ (field.computed action).toList) (sent ++ (field.emission action).toList) := by
  cases steps with
  | observe | closeFeed | requestStop | close | keepOpen =>
    exact .silent ⟨rfl, rfl, rfl⟩ (h.of_same ⟨rfl, rfl, rfl, rfl, .inl rfl⟩)
  | stop stage | poll stage =>
    exact .silent (silent_of_work stage rfl _)
      (h.of_same ⟨rfl, rfl, rfl, rfl, .inr ⟨by rw [stage]; rfl, rfl⟩⟩)
  | broken stage | atRest stage =>
    exact .silent (silent_of_work stage rfl _) h
  | fault stage tick =>
    exact .silent (silent_of_fault stage tick _)
      (h.of_same ⟨rfl, rfl, rfl, rfl, .inr ⟨by rw [stage]; rfl, rfl⟩⟩)
  | publish stage =>
    exact .silent (silent_of_work stage rfl _) (h.published stage)
  | announce stage =>
    exact .silent (silent_of_work stage rfl _) (h.announced stage)
  | compute stage tick =>
    simp only [entered_of_work stage (fun _ => Work.noConfusion), emission_of_work stage,
      Work.upcoming, Option.toList_none, List.filterMap_nil, List.append_nil]
    rw [computed_of_drained stage, tick]
    exact h.computed stage tick
  | settle stage evaluated recorded =>
    simp only [computed_of_work stage (fun _ => Work.noConfusion), emission_of_work stage,
      Work.upcoming, Option.toList_none, List.append_nil]
    rw [entered_of_published stage, evaluated]
    exact h.settled stage recorded
  | send stage =>
    simp only [entered_of_work stage (fun _ => Work.noConfusion),
      computed_of_work stage (fun _ => Work.noConfusion), Option.toList_none, List.filterMap_nil,
      List.append_nil]
    rw [emission_of_work stage]
    exact h.forwarded stage
  | sleep stage | retired stage | wake stage | miss stage | collect stage | finish stage
  | goOn stage | batchDone stage =>
    exact .silent (silent_of_dispatch stage rfl _) (h.of_same ⟨rfl, rfl, rfl, rfl, .inl rfl⟩)
  | deliver stage recorded =>
    rw [entered_of_applying stage]
    simp only [show field.computed (.dispatch _) = none from rfl,
      show field.emission (.dispatch _) = none from rfl, Option.toList_none, Option.toList_some,
      List.filterMap_cons, List.filterMap_nil, Block.tick?, List.append_nil]
    exact { h with flushed := fun _ => pending_of_record recorded }

/-! ## A whole run -/

theorem told_cons (field : Field) (action : Action) (rest : List Action) :
    field.told (action :: rest) =
      (field.entered action).toList.filterMap Block.tick? ++ (field.step action).told rest := by
  rw [Field.told, blocks_cons, List.filterMap_append, Field.told]

theorem Shown.run (h : field.Shown start told reports sent) (actions : List Action) :
    (field.run actions).Shown start (told ++ field.told actions) (reports ++ field.reports actions)
      (sent ++ field.emissions actions) := by
  induction actions generalizing field told reports sent with
  | nil =>
      rw [Field.told, Field.blocks, Field.reports, emissions, seen, moments, List.filterMap_nil,
        List.filterMap_nil, List.filterMap_nil, List.append_nil, List.append_nil, List.append_nil]
      exact h
  | cons action rest ih =>
      have hrest := ih (h.step (step_steps field action))
      rw [List.append_assoc, List.append_assoc, List.append_assoc] at hrest
      rw [told_cons, reports_cons]
      exact hrest

theorem spawned_shown {population : Population}
    (current : population.snapshot.generation = population.generation) (emitter : Emitter)
    (feed : Queue Observation) (capacity : Nat) (recorder : Option Recorder) :
    (spawned population emitter feed capacity recorder).Shown
      (spawned population emitter feed capacity recorder) [] [] [] where
  stage := ⟨[], .between rfl current rfl⟩
  config := rfl
  shown := List.mem_cons_self
  heard := ⟨_, List.mem_cons_self, current.symm⟩
  numbers := rfl
  count := rfl
  whole := fun _ hreport => absurd hreport List.not_mem_nil
  flushed := fun hnone => absurd rfl hnone

theorem shown_of_run {population : Population}
    (current : population.snapshot.generation = population.generation) (emitter : Emitter)
    (feed : Queue Observation) (capacity : Nat) (recorder : Option Recorder)
    (actions : List Action) :
    ((spawned population emitter feed capacity recorder).run actions).Shown
      (spawned population emitter feed capacity recorder)
      ((spawned population emitter feed capacity recorder).told actions)
      ((spawned population emitter feed capacity recorder).reports actions)
      ((spawned population emitter feed capacity recorder).emissions actions) :=
  (spawned_shown current emitter feed capacity recorder).run actions

/-! ## Nothing is taken back -/

/-- Whether a field shows and announces no less than one before it. -/
structure Behind (a b : Field) : Prop where
  shown : a.snapshot.generation ≤ b.snapshot.generation
  announced : a.announced ≤ b.announced

theorem Shown.behind (h : field.Shown start told reports sent) {action : Action}
    (steps : field.Steps action after) : field.Behind after := by
  obtain ⟨done, hstage⟩ := h.stage
  cases steps with
  | publish stage =>
    rw [stage] at hstage
    exact ⟨hstage.publish.1, Nat.le_refl _⟩
  | announce stage =>
    rw [stage] at hstage
    exact ⟨Nat.le_refl _, hstage.announce.1⟩
  | observe | closeFeed | requestStop | close | keepOpen | stop | poll | compute | fault | settle
  | send | broken | atRest | wake | sleep | miss | collect | finish | goOn | deliver | batchDone
  | retired => exact ⟨Nat.le_refl _, Nat.le_refl _⟩

theorem Shown.behind_run (h : field.Shown start told reports sent) (actions : List Action) :
    field.Behind (field.run actions) := by
  induction actions generalizing field told reports sent with
  | nil => exact ⟨Nat.le_refl _, Nat.le_refl _⟩
  | cons action rest ih =>
      have steps := step_steps field action
      have hfirst := h.behind steps
      have hrest := ih (h.step steps)
      exact ⟨Nat.le_trans hfirst.shown hrest.shown, Nat.le_trans hfirst.announced hrest.announced⟩

theorem Shown.announced_le (h : field.Shown start told reports sent) :
    field.announced ≤ field.snapshot.generation := by
  obtain ⟨done, stage⟩ := h.stage
  exact stage.announced_le

end Field

end Vivarium
