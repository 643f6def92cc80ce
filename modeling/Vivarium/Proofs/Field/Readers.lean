import Vivarium.Field.Readers
import Vivarium.Proofs.Field.Shown

/-!
# Readers see whole ticks

Any number of readers look at a field while it runs, each whenever it likes.
They see the snapshot that is published, its status, or the generation that was
announced, and nothing tells them what else is going on. Still there is no half
a tick to be seen: every snapshot is the first one or that of a tick that was
computed to its end. And nothing is taken back, whoever looks and whoever
looked before. A snapshot seen later is no older than anything seen earlier,
and a reader who has heard of a generation finds that one or a later one.

The announcement comes last, so it vouches for more than the snapshot: when a
generation is announced, the queue has taken in the signals of all ticks up to
it, and everything that they recorded is in the log. What the queue has taken in
is still there or has gone through it: it is with the sink, in the hand of the
dispatcher, or has been put out by a later signal.

The other way around nothing holds, and need not. A snapshot is seen before it
is announced, so the announcement that follows a look may be one behind it.
-/

namespace Vivarium

open AuditLog

/-- Whether a view is one of a given snapshot, or of its generation alone. -/
def View.Shows (snapshot : Snapshot) : View → Prop
  | .snapshot shown => shown = snapshot
  | .status shown => shown = snapshot.status
  | .announced number => number = snapshot.generation

/-- What one look promises of a later one, by the same reader or another. -/
structure Sighting.Before (earlier later : Sighting) : Prop where
  shown : later.view.published = true → earlier.view.generation ≤ later.view.generation
  heard : earlier.view.published = false → earlier.view.generation ≤ later.view.generation

namespace Field

variable {field start : Field} {told : List (TickReport × List Signal)}
  {reports : List TickReport} {sent : List Signal} {report : TickReport}

theorem generation_view_of_published {glance : Glance}
    (h : (field.view glance).published = true) :
    (field.view glance).generation = field.snapshot.generation := by
  cases glance with
  | snapshot | status => rfl
  | generation => cases h

theorem generation_view_of_unpublished {glance : Glance}
    (h : (field.view glance).published = false) :
    (field.view glance).generation = field.announced := by
  cases glance with
  | snapshot | status => cases h
  | generation => rfl

theorem Shown.view_bounds (h : field.Shown start told reports sent) (glance : Glance) :
    field.announced ≤ (field.view glance).generation ∧
      (field.view glance).generation ≤ field.snapshot.generation := by
  have hle := h.announced_le
  cases glance with
  | snapshot | status => exact ⟨hle, Nat.le_refl _⟩
  | generation => exact ⟨Nat.le_refl _, hle⟩

theorem Shown.shows (h : field.Shown start told reports sent) (glance : Glance) :
    ∃ snapshot ∈ start.snapshot :: reports.map (·.snapshot),
      (field.view glance).Shows snapshot := by
  cases glance with
  | snapshot | status => exact ⟨field.snapshot, h.shown, rfl⟩
  | generation => exact h.heard

theorem mem_sightings {taken : List Action} {events : List Event} {sight : Sighting}
    (h : sight ∈ field.sightings taken events) : ∃ steps glance,
      sight.steps = taken ++ steps ∧ sight.view = (field.run steps).view glance := by
  induction events generalizing field taken with
  | nil => cases h
  | cons event rest ih =>
      cases event with
      | step action =>
          obtain ⟨steps, glance, hsteps, hview⟩ := ih h
          exact ⟨action :: steps, glance, by rw [hsteps, List.append_assoc]; rfl, hview⟩
      | look reader glance =>
          rcases List.mem_cons.mp h with rfl | hrest
          · exact ⟨[], glance, (List.append_nil _).symm, rfl⟩
          · exact ih hrest

theorem Shown.before (h : field.Shown start told reports sent) {reader : Nat} {glance : Glance}
    {taken : List Action} {events : List Event} {later : Sighting}
    (hlater : later ∈ field.sightings taken events) :
    Sighting.Before { reader, steps := taken, view := field.view glance } later := by
  obtain ⟨steps, glance', -, hview⟩ := mem_sightings hlater
  have behind := h.behind_run steps
  have bounds := h.view_bounds glance
  have bounds' := (h.run steps).view_bounds glance'
  rw [← hview] at bounds'
  -- What is shown now bounds this view from above, what is announced then the later from below.
  constructor
  · intro hpublished
    rw [hview] at hpublished ⊢
    rw [generation_view_of_published hpublished]
    exact Nat.le_trans bounds.2 behind.shown
  · intro (hunpublished : (field.view glance).published = false)
    show (field.view glance).generation ≤ _
    rw [generation_view_of_unpublished hunpublished]
    exact Nat.le_trans behind.announced bounds'.1

theorem Shown.ordered (h : field.Shown start told reports sent) (taken : List Action)
    (events : List Event) : (field.sightings taken events).Pairwise Sighting.Before := by
  induction events generalizing field told reports sent taken with
  | nil => exact .nil
  | cons event rest ih =>
      cases event with
      | step action => exact ih (h.step (step_steps field action)) _
      | look reader glance =>
          rw [sightings, List.pairwise_cons]
          exact ⟨fun later hlater => h.before hlater, ih h taken⟩

/-! ## What is behind an announcement -/

/-- Whether the signals of a tick have all been pushed, and they and its entries are in the log. -/
structure Spoken (start : Field) (actions : List Action) (report : TickReport)
    (signals : List Signal) : Prop where
  told : (report, signals) ∈ start.told actions
  pushed : signals <:+: start.pushes actions
  written : ∀ recorder ∈ start.recorder,
    recorder.kept (report.entries ++ signals.map .signal) <:+: (start.run actions).log

theorem mem_blocks_of_mem_told {actions : List Action} {signals : List Signal}
    (h : (report, signals) ∈ field.told actions) : .tick report signals ∈ field.blocks actions := by
  obtain ⟨block, hblock, hsome⟩ := List.mem_filterMap.mp h
  cases block with
  | tick report' signals' =>
      cases hsome
      exact hblock
  | outcome result => cases hsome

theorem written_of_told {population : Population} {emitter : Emitter} {feed : Queue Observation}
    {capacity : Nat} {recorder : Recorder} {actions : List Action} {signals : List Signal}
    (shown : ((spawned population emitter feed capacity (some recorder)).run actions).Shown start
      ((spawned population emitter feed capacity (some recorder)).told actions) reports sent)
    (htold : (report, signals) ∈
      (spawned population emitter feed capacity (some recorder)).told actions) :
    recorder.kept (report.entries ++ signals.map .signal) <:+:
      ((spawned population emitter feed capacity (some recorder)).run actions).log := by
  have accounted := spawned_accounted population emitter feed capacity (some recorder)
  have logged := (spawned_logged population emitter feed capacity recorder).run accounted actions
  have hwritten := logged.written
  obtain ⟨current, hcurrent, -⟩ := logged.settings
  have hpending := shown.flushed (List.ne_nil_of_mem htold) current hcurrent
  rw [written, hcurrent, Option.elim_some, hpending, List.append_nil] at hwritten
  rw [hwritten]
  have hblock := infix_flatMap (fun block => recorder.kept block.entries)
    (mem_blocks_of_mem_told htold)
  exact hblock.trans (List.suffix_append _ _).isInfix

/-- What a reader can rely on in what there is to see. -/
structure Reliable (start : Field) (sight : Sighting) : Prop where
  shows : sight.view.Shows start.snapshot ∨ ∃ report ∈ start.reports sight.steps,
    sight.view.Shows report.snapshot ∧
      report.snapshot.Whole start.population.config.population.maxSize
  numbers : (start.reports sight.steps).map (·.snapshot.generation) =
    List.range' (start.population.generation + 1) (start.reports sight.steps).length
  places : ∃ passed, start.pushes sight.steps = passed ++ (start.run sight.steps).signals.items ∧
    Interleaves ((start.run sight.steps).delivered ++ (start.run sight.steps).dispatch.inHand)
      (start.evictions sight.steps) passed
  spoken : sight.view.published = false → ∀ report ∈ start.reports sight.steps,
    report.snapshot.generation ≤ sight.view.generation →
      ∃ signals, start.Spoken sight.steps report signals

theorem reliable_of_mem {population : Population}
    (current : population.snapshot.generation = population.generation) {emitter : Emitter}
    {feed : Queue Observation} {capacity : Nat} {recorder : Option Recorder} {events : List Event}
    {sight : Sighting}
    (h : sight ∈ (spawned population emitter feed capacity recorder).sightings [] events) :
    (spawned population emitter feed capacity recorder).Reliable sight := by
  obtain ⟨steps, glance, hsteps, hview⟩ := mem_sightings h
  cases hsteps
  have shown := shown_of_run current emitter feed capacity recorder sight.steps
  have accounted := spawned_accounted population emitter feed capacity recorder
  have hpushes := accounted.pushes_eq sight.steps
  refine ⟨?_, shown.numbers, ?_, fun hunpublished report hreport hle => ?_⟩
  · obtain ⟨snapshot, hsnapshot, hshows⟩ := shown.shows glance
    rw [← hview] at hshows
    rcases List.mem_cons.mp hsnapshot with rfl | hmem
    · exact .inl hshows
    · obtain ⟨report, hreport, rfl⟩ := List.mem_map.mp hmem
      exact .inr ⟨report, hreport, hshows, shown.whole report hreport⟩
  · rw [hpushes]
    exact (accounted.run sight.steps).places
  · rw [hview] at hunpublished hle
    rw [generation_view_of_unpublished hunpublished] at hle
    obtain ⟨done, stage⟩ := shown.stage
    obtain ⟨signals, htold, hsent⟩ := stage.spoken hreport hle
    rw [← hpushes] at hsent
    refine ⟨signals, htold, hsent, fun recorder hrecorder => ?_⟩
    cases hrecorder
    exact written_of_told shown htold

/-- Whatever happens and whoever looks, everything seen is of a whole tick, what was announced has
been done, and nothing that was shown or announced is taken back. -/
theorem readers_see_ticks (population : Population)
    (current : population.snapshot.generation = population.generation) (emitter : Emitter)
    (feed : Queue Observation) (capacity : Nat) (recorder : Option Recorder)
    (events : List Event) :
    (∀ sight ∈ (spawned population emitter feed capacity recorder).sightings [] events,
        (spawned population emitter feed capacity recorder).Reliable sight) ∧
      ((spawned population emitter feed capacity recorder).sightings [] events).Pairwise
        Sighting.Before ∧
      ∀ (config : FieldConfig) (interpret : Interpreter) (source : Random.Source)
        (calls : List Call), config.check = .ok () →
        (Population.fresh config interpret source).run calls = .ok population →
        ∀ sight ∈ (spawned population emitter feed capacity recorder).sightings [] events,
          ∀ snapshot, sight.view = .snapshot snapshot →
            snapshot.Whole config.population.maxSize := by
  refine ⟨fun sight => reliable_of_mem current,
    (spawned_shown current emitter feed capacity recorder).ordered [] events, ?_⟩
  intro config interpret source calls accepted reached sight hsight snapshot hsnapshot
  have reliable := reliable_of_mem current hsight
  have hshows := reliable.shows
  rw [hsnapshot] at hshows
  rcases hshows with rfl | ⟨report, -, rfl, whole⟩
  · exact Population.whole_of_run accepted reached
  · rw [← Population.config_of_run accepted reached]
    exact whole

/-- One tick with two readers who look around each step, at the announcement and at the snapshot. -/
def watchedTick : List Event :=
  oneTick.flatMap fun action => [.look 1 .generation, .step action, .look 2 .snapshot]

/-- A field with a log where two rules speak in every tick. -/
def loggedCrowd : Field :=
  { crowded with recorder := some {} }

/-- The snapshot is out before the third look at it, and the announcement four steps later. -/
theorem watched_tick_seen :
    lone.check = .ok () ∧
      (∀ sight ∈ loggedCrowd.sightings [] watchedTick, loggedCrowd.Reliable sight) ∧
      (loggedCrowd.sightings [] watchedTick).Pairwise Sighting.Before ∧
      (∀ sight ∈ loggedCrowd.sightings [] watchedTick, ∀ snapshot,
        sight.view = .snapshot snapshot → snapshot.Whole 1) ∧
      ((loggedCrowd.sightings [] watchedTick).map (·.view.generation)).take 16 =
        [0, 0, 0, 0, 0, 1, 0, 1, 0, 1, 0, 1, 0, 1, 1, 1] := by
  have accepted : lone.check = .ok () := by rfl
  obtain ⟨reliable, ordered, whole⟩ := readers_see_ticks
    (.fresh lone (fun _ _ => ⟨0.8, 0.5, 0⟩) (.seeded 7)) rfl
    { config := { rules := [insistent "a", insistent "b"] } } (.new 1) 1 (some {}) watchedTick
  exact ⟨accepted, reliable, ordered,
    whole lone (fun _ _ => ⟨0.8, 0.5, 0⟩) (.seeded 7) [] accepted rfl, by decide +kernel⟩

end Field

end Vivarium
