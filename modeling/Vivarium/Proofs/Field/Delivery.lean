import Vivarium.Proofs.Field.Steps
import Vivarium.Proofs.Population.Run
import Vivarium.Proofs.Queue.Flow

/-!
# Every signal is accounted for

The worker sends signals into a queue that never makes it wait, and the
dispatcher takes them out and gives them to a sink, while others close the
queue behind the worker. However the parties get in between one another, a
signal that was sent is in exactly one place: with the sink, in the hand of the
dispatcher, still in the queue, or put out of it by a later one. When the field
has stopped, hand and queue are empty, and the rest is bookkeeping.

That they are empty then is the point of the proof. The dispatcher finds
nothing in the queue first and asks whether it is closed afterwards, and a
signal sent in between would be lost if the answer were yes. It cannot be:
waiting ends only when the queue holds something or is closed, what the queue
holds stays there until the dispatcher takes it, and once it is closed nobody
sends any more. So a dispatcher that found nothing looked into a queue that was
closed already.
-/

namespace Vivarium

/-- The signal that the worker is about to send. -/
def Work.upcoming : Work → Option Signal
  | .sending _ (signal :: _) => some signal
  | _ => none

/-- The signals that the dispatcher has in hand. -/
def Dispatch.inHand : Dispatch → List Signal
  | .applying batch => batch
  | _ => []

/-- What the stage of the dispatcher tells of the queue. -/
def Dispatch.Fits (signals : Queue Signal) : Dispatch → Prop
  | .awake => signals.ready = true
  | .undecided => signals.closed = true ∧ signals.items = []
  | .finished => signals.closed = true ∧ signals.items = []
  | _ => True

instance (stage : Dispatch) : Decidable (stage = .finished) :=
  match stage with
  | .finished => isTrue rfl
  | .waiting | .awake | .undecided | .applying _ => isFalse Dispatch.noConfusion

namespace Field

/-! ## What there is to see of a run -/

/-- The signal that the worker sends by an action. -/
def emission (field : Field) : Action → Option Signal
  | .work _ => field.work.upcoming
  | _ => none

/-- The signal that the queue takes in by an action. -/
def intake (field : Field) (action : Action) : Option Signal :=
  (field.emission action).filter fun signal => (field.signals.push signal).1

/-- The signal that is put out of the queue by an action. -/
def eviction (field : Field) (action : Action) : Option Signal :=
  (field.emission action).bind fun _ => field.signals.ousted

/-- What is seen of each action of a run, in order. -/
def seen (see : Field → Action → Option Signal) (field : Field) : List Action → List Signal
  | [] => []
  | action :: rest => (see field action).toList ++ (field.step action).seen see rest

/-- The signals sent in the course of a run. -/
def emissions (field : Field) (actions : List Action) : List Signal :=
  field.seen emission actions

/-- The signals that the queue has taken in in the course of a run. -/
def pushes (field : Field) (actions : List Action) : List Signal :=
  field.seen intake actions

/-- The signals put out of the queue in the course of a run. -/
def evictions (field : Field) (actions : List Action) : List Signal :=
  field.seen eviction actions

/-! ## Where the signals are -/

/-- Whether all signals are accounted for, given those sent and those put out so far. -/
structure Accounted (field : Field) (emitted evicted : List Signal) : Prop where
  places : ∃ passed, emitted = passed ++ field.signals.items ∧
    Interleaves (field.delivered ++ field.dispatch.inHand) evicted passed
  emitted : field.emitted = emitted.length
  dropped : field.signals.dropped = evicted.length
  outcomes : field.applied + field.failed = field.delivered.length
  room : 0 < field.signals.capacity
  closed : field.signals.closed = true → field.work = .stopped
  fits : field.dispatch.Fits field.signals

/-- Whether two fields agree on everything that a signal goes through. -/
structure SameTraffic (a b : Field) : Prop where
  signals : b.signals = a.signals
  dispatch : b.dispatch = a.dispatch
  delivered : b.delivered = a.delivered
  emitted : b.emitted = a.emitted
  applied : b.applied = a.applied
  failed : b.failed = a.failed

variable {field after : Field} {emitted evicted : List Signal}

theorem Accounted.of_same (h : field.Accounted emitted evicted) (same : field.SameTraffic after)
    (hclosed : field.signals.closed = true → after.work = .stopped) :
    after.Accounted emitted evicted := by
  constructor
  case places =>
    rw [same.signals, same.delivered, same.dispatch]
    exact h.places
  case emitted =>
    rw [same.emitted]
    exact h.emitted
  case dropped =>
    rw [same.signals]
    exact h.dropped
  case outcomes =>
    rw [same.applied, same.failed, same.delivered]
    exact h.outcomes
  case room =>
    rw [same.signals]
    exact h.room
  case closed =>
    rw [same.signals]
    exact hclosed
  case fits =>
    rw [same.signals, same.dispatch]
    exact h.fits

theorem Accounted.open_of_work (h : field.Accounted emitted evicted)
    (hwork : field.work ≠ .stopped) : field.signals.closed = false := by
  cases hclosed : field.signals.closed with
  | false => rfl
  | true => exact absurd (h.closed hclosed) hwork

/-- What was delivered was sent, in this order. -/
theorem Accounted.delivered_sublist (h : field.Accounted emitted evicted) :
    field.delivered.Sublist emitted := by
  obtain ⟨passed, hemitted, hplaces⟩ := h.places
  have hpassed := (List.sublist_append_left field.delivered _).trans hplaces.sublist_left
  rw [hemitted]
  exact hpassed.trans (List.sublist_append_left passed _)

/-! ## A step -/

theorem Accounted.sent {generation : Nat} {signal : Signal} {rest : List Signal}
    (h : field.Accounted emitted evicted) (stage : field.work = .sending generation (signal :: rest)) :
    { field with
      emitted := field.emitted + 1
      signals := (field.signals.push signal).2
      work := .sending generation rest }.Accounted (emitted ++ [signal])
      (evicted ++ field.signals.ousted.toList) := by
  have hopen : field.signals.closed = false := by
    refine h.open_of_work ?_
    rw [stage]
    exact Work.noConfusion
  have push := Queue.pushed h.room hopen signal
  obtain ⟨passed, hemitted, hplaces⟩ := h.places
  constructor
  case places =>
    refine ⟨passed ++ field.signals.ousted.toList, ?_, ?_⟩
    · rw [hemitted, List.append_assoc, List.append_assoc]
      exact congrArg (passed ++ ·) push.items
    · rw [← List.append_nil (_ ++ _)]
      exact hplaces.append (.all_right _)
  case emitted =>
    rw [List.length_append]
    exact congrArg (· + 1) h.emitted
  case dropped =>
    rw [List.length_append, ← h.dropped]
    exact push.dropped
  case outcomes => exact h.outcomes
  case room => exact Nat.lt_of_lt_of_eq h.room push.capacity.symm
  case closed =>
    intro hclosed
    have hbefore := push.closed.symm.trans hclosed
    rw [hopen] at hbefore
    cases hbefore
  case fits =>
    have hfits := h.fits
    show field.dispatch.Fits (field.signals.push signal).2
    -- A dispatcher that has decided to finish has seen the queue closed, which it is not.
    cases hdispatch : field.dispatch with
    | awake => exact push.ready
    | undecided | finished =>
      rw [hdispatch] at hfits
      obtain ⟨hclosed, -⟩ := hfits
      rw [hopen] at hclosed
      cases hclosed
    | waiting | applying _ => trivial

theorem Accounted.busy (h : field.Accounted emitted evicted) {stage : Work}
    (hstage : field.work = stage) (hwork : stage ≠ .stopped) (same : field.SameTraffic after) :
    after.Accounted emitted evicted := by
  refine h.of_same same fun hclosed => ?_
  rw [h.open_of_work (hstage ▸ hwork)] at hclosed
  cases hclosed

/-- A drain moves everything in the queue into the hand of the dispatcher. -/
theorem Accounted.drained (h : field.Accounted emitted evicted)
    (hdispatch : field.dispatch.inHand = []) {stage : Dispatch}
    (hstage : stage.inHand = field.signals.items)
    (hfits : stage.Fits { field.signals with items := [] }) :
    { field with signals := { field.signals with items := [] }, dispatch := stage }.Accounted
      emitted evicted := by
  obtain ⟨passed, hemitted, hplaces⟩ := h.places
  refine ⟨⟨passed ++ field.signals.items, ?_, ?_⟩, h.emitted, h.dropped, h.outcomes, h.room,
    h.closed, hfits⟩
  · rw [hemitted]
    exact (List.append_nil _).symm
  · have htaken := hplaces.append (.all_left field.signals.items)
    rw [hdispatch, List.append_nil, List.append_nil] at htaken
    rw [hstage]
    exact htaken

theorem Accounted.turned (h : field.Accounted emitted evicted) {stage : Dispatch}
    (hstage : stage.inHand = field.dispatch.inHand) (hfits : stage.Fits field.signals) :
    { field with dispatch := stage }.Accounted emitted evicted := by
  refine ⟨?_, h.emitted, h.dropped, h.outcomes, h.room, h.closed, hfits⟩
  rw [hstage]
  exact h.places

theorem Accounted.delivered {signal : Signal} {rest : List Signal} (sink : Sink)
    (recorder : Option Recorder) (log : List AuditEntry) (h : field.Accounted emitted evicted)
    (stage : field.dispatch = .applying (signal :: rest)) :
    { field with
      recorder
      log
      applied := field.applied + if (sink.outcome signal).success then 1 else 0
      failed := field.failed + if (sink.outcome signal).success then 0 else 1
      delivered := field.delivered ++ [signal]
      dispatch := .applying rest }.Accounted emitted evicted := by
  have hplaces := h.places
  rw [stage] at hplaces
  refine ⟨?_, h.emitted, h.dropped, ?_, h.room, h.closed, trivial⟩
  · obtain ⟨passed, hemitted, hplaces⟩ := hplaces
    refine ⟨passed, hemitted, ?_⟩
    rw [List.append_assoc]
    exact hplaces
  · have houtcomes := h.outcomes
    rw [List.length_append, List.length_singleton]
    show field.applied + (if _ then 1 else 0) + (field.failed + if _ then 0 else 1) = _
    split
    · omega
    · omega

theorem Accounted.closed_behind (h : field.Accounted emitted evicted)
    (stage : field.work = .stopped) :
    { field with signals := field.signals.close }.Accounted emitted evicted := by
  refine ⟨h.places, h.emitted, h.dropped, h.outcomes, h.room, fun _ => stage, ?_⟩
  have hfits := h.fits
  show field.dispatch.Fits field.signals.close
  cases hdispatch : field.dispatch with
  | awake => exact Bool.or_true _
  | undecided | finished =>
    rw [hdispatch] at hfits
    exact ⟨rfl, hfits.2⟩
  | waiting | applying _ => trivial

theorem Accounted.unsent {action : Action} (hnone : field.emission action = none)
    (h : after.Accounted emitted evicted) :
    after.Accounted (emitted ++ (field.emission action).toList)
      (evicted ++ (field.eviction action).toList) := by
  rw [eviction, hnone, Option.bind_none, Option.toList_none, List.append_nil, List.append_nil]
  exact h

theorem emission_of_work {stage : Work} (hstage : field.work = stage) (now : Timestamp) :
    field.emission (.work now) = stage.upcoming := by
  rw [← hstage]
  rfl

theorem Accounted.step (h : field.Accounted emitted evicted) {action : Action}
    (steps : field.Steps action after) :
    after.Accounted (emitted ++ (field.emission action).toList)
      (evicted ++ (field.eviction action).toList) := by
  have hfits := h.fits
  cases steps with
  | observe | closeFeed | requestStop =>
    exact .unsent rfl (h.of_same ⟨rfl, rfl, rfl, rfl, rfl, rfl⟩ h.closed)
  | close stage => exact .unsent rfl (h.closed_behind stage)
  | keepOpen => exact .unsent rfl h
  | stop stage | poll stage | compute stage | fault stage | publish stage | settle stage
  | announce stage =>
    exact .unsent (emission_of_work stage _)
      (h.busy stage Work.noConfusion ⟨rfl, rfl, rfl, rfl, rfl, rfl⟩)
  | send stage =>
    rw [eviction, emission_of_work stage]
    exact h.sent stage
  | broken stage | atRest stage => exact .unsent (emission_of_work stage _) h
  | wake stage ready =>
    exact .unsent rfl (h.turned (by rw [stage]; rfl) ready)
  | sleep | retired => exact .unsent rfl h
  | miss stage empty =>
    rw [stage] at hfits
    refine .unsent rfl (h.drained (by rw [stage]; rfl) empty.symm ⟨?_, rfl⟩)
    have hready : field.signals.ready = true := hfits
    rw [Queue.ready, empty] at hready
    exact hready
  | collect stage =>
    exact .unsent rfl (h.drained (by rw [stage]; rfl) rfl trivial)
  | finish stage =>
    rw [stage] at hfits
    exact .unsent rfl (h.turned (by rw [stage]; rfl) hfits)
  | goOn stage =>
    exact .unsent rfl (h.turned (by rw [stage]; rfl) trivial)
  | deliver stage => exact .unsent rfl (h.delivered _ _ _ stage)
  | batchDone stage =>
    exact .unsent rfl (h.turned (by rw [stage]; rfl) trivial)

/-! ## A whole run -/

theorem Accounted.run (h : field.Accounted emitted evicted) (actions : List Action) :
    (field.run actions).Accounted (emitted ++ field.emissions actions)
      (evicted ++ field.evictions actions) := by
  induction actions generalizing field emitted evicted with
  | nil =>
    rw [emissions, evictions, seen, seen, List.append_nil, List.append_nil]
    exact h
  | cons action rest ih =>
    have hrest := ih (h.step (step_steps field action))
    rw [List.append_assoc, List.append_assoc] at hrest
    exact hrest

/-- The queue is not closed as long as the worker sends. -/
theorem Accounted.intake_eq (h : field.Accounted emitted evicted) (action : Action) :
    field.intake action = field.emission action := by
  rw [intake]
  cases hemission : field.emission action with
  | none => rfl
  | some signal =>
    have hopen : field.signals.closed = false := by
      refine h.open_of_work fun hstopped => ?_
      cases action with
      | work now =>
        rw [emission_of_work hstopped] at hemission
        cases hemission
      | observe | closeFeed | dispatch | requestStop | closeSignals => cases hemission
    rw [Option.filter_some, Queue.push_of_open hopen, if_pos rfl]

/-- Whatever is sent is taken in. -/
theorem Accounted.pushes_eq (h : field.Accounted emitted evicted) (actions : List Action) :
    field.pushes actions = field.emissions actions := by
  induction actions generalizing field emitted evicted with
  | nil => rfl
  | cons action rest ih =>
    have hrest := ih (h.step (step_steps field action))
    show (field.intake action).toList ++ (field.step action).pushes rest = _
    rw [h.intake_eq, hrest]
    rfl

/-! ## The generation that others see

A tick is visible in the population before its snapshot is out. Between two
ticks the two agree. -/

/-- Whether the snapshot is that of the population, or of the tick in hand is going to be. -/
def Current (field : Field) : Prop :=
  match field.work with
  | .computed report => report.snapshot.generation = field.population.generation
  | _ => field.snapshot.generation = field.population.generation

theorem Current.step (h : field.Current) {action : Action} (steps : field.Steps action after) :
    after.Current := by
  have hcurrent := h
  rw [Current] at hcurrent
  cases steps with
  | observe | closeFeed | requestStop | close | keepOpen | broken | atRest => exact h
  | wake | sleep | miss | collect | finish | goOn | deliver | batchDone | retired => exact h
  | stop stage | poll stage | fault stage | publish stage | settle stage | send stage
  | announce stage =>
    rw [stage] at hcurrent
    exact hcurrent
  | compute _ tick =>
    obtain ⟨stages, -, rfl, rfl⟩ := Population.tick_eq_ok tick
    exact rfl

theorem Current.run (h : field.Current) (actions : List Action) : (field.run actions).Current := by
  induction actions generalizing field with
  | nil => exact h
  | cons action rest ih => exact ih (h.step (step_steps field action))

/-! ## The end -/

/-- A field that is about to start, with any emitter, any feed and room for any number of signals. -/
def spawned (population : Population) (emitter : Emitter) (feed : Queue Observation)
    (capacity : Nat) (recorder : Option Recorder) : Field :=
  { start population recorder with emitter, feed, signals := .new capacity }

/-- What is promised of a field that has stopped, given the signals sent and those put out. -/
structure Conserved (field : Field) (emitted evicted : List Signal) : Prop where
  balance : field.summary.emitted =
    field.summary.applied + field.summary.failed + field.summary.dropped
  places : Interleaves field.delivered evicted emitted
  order : field.delivered.Sublist emitted
  emitted : field.summary.emitted = emitted.length
  handed : field.summary.applied + field.summary.failed = field.delivered.length
  dropped : field.summary.dropped = evicted.length
  generation : field.summary.status.generation = field.summary.ticks

theorem spawned_accounted (population : Population) (emitter : Emitter) (feed : Queue Observation)
    (capacity : Nat) (recorder : Option Recorder) :
    (spawned population emitter feed capacity recorder).Accounted [] [] where
  places := ⟨[], rfl, .nil⟩
  emitted := rfl
  dropped := rfl
  outcomes := rfl
  room := Nat.lt_of_lt_of_le Nat.zero_lt_one (Nat.le_max_right _ _)
  closed := fun hclosed => by cases hclosed
  fits := trivial

/-- When the dispatcher has finished, nothing is in its hand or in the queue. -/
theorem Accounted.ended (h : field.Accounted emitted evicted)
    (finished : field.dispatch = .finished) :
    field.work = .stopped ∧ Interleaves field.delivered evicted emitted := by
  obtain ⟨passed, hemitted, hplaces⟩ := h.places
  have hfits := h.fits
  rw [finished] at hfits hplaces
  obtain ⟨hclosed, hitems⟩ := hfits
  rw [hitems, List.append_nil] at hemitted
  rw [show Dispatch.inHand .finished = [] from rfl, List.append_nil, ← hemitted] at hplaces
  exact ⟨h.closed hclosed, hplaces⟩

theorem Accounted.conserved (h : field.Accounted emitted evicted) (current : field.Current)
    (finished : field.dispatch = .finished) : field.Conserved emitted evicted := by
  obtain ⟨hstopped, hplaces⟩ := h.ended finished
  have hlength := hplaces.length_eq
  have hsent := h.emitted
  have hdropped := h.dropped
  have houtcomes := h.outcomes
  refine ⟨?_, hplaces, hplaces.sublist_left, hsent, houtcomes, hdropped, ?_⟩
  · show field.emitted = field.applied + field.failed + field.signals.dropped
    omega
  · rw [Current, hstopped] at current
    exact current

theorem stopped_conserves (config : FieldConfig) (interpret : Interpreter)
    (source : Random.Source) (accepted : config.check = .ok ()) (calls : List Call)
    (population : Population)
    (reached : (Population.fresh config interpret source).run calls = .ok population)
    (emitter : Emitter) (feed : Queue Observation) (capacity : Nat) (recorder : Option Recorder)
    (actions : List Action)
    (finished : ((spawned population emitter feed capacity recorder).run actions).dispatch =
      .finished) :
    ((spawned population emitter feed capacity recorder).run actions).Conserved
      ((spawned population emitter feed capacity recorder).emissions actions)
      ((spawned population emitter feed capacity recorder).evictions actions) := by
  have sound := Population.sound_of_run accepted reached
  have accounted := (spawned_accounted population emitter feed capacity recorder).run actions
  have current : (spawned population emitter feed capacity recorder).Current :=
    sound.snapshot_generation
  exact accounted.conserved (current.run actions) finished

/-- A population of one cell. -/
def lone : FieldConfig :=
  { population := { initialSize := 1, maxSize := 1 } }

/-- A rule that always speaks. -/
def insistent (parameter : String) : Rule :=
  { condition := .all []
    parameter
    value := 1
    reason := "" }

/-- A field where two rules speak in every tick and there is room for one signal. -/
def crowded : Field :=
  spawned (.fresh lone (fun _ _ => ⟨0.8, 0.5, 0⟩) (.seeded 7))
    { config := { rules := [insistent "a", insistent "b"] } } (.new 1) 1 none

/-- One tick, and the way from there to the end. -/
def oneTick : List Action :=
  List.replicate 7 (.work ⟨0, 0, 0⟩) ++ [.requestStop, .work ⟨0, 0, 0⟩, .closeSignals] ++
    List.replicate 7 (.dispatch .accepting)

theorem crowded_conserves :
    lone.check = .ok () ∧ (crowded.run oneTick).dispatch = .finished ∧
      (crowded.run oneTick).Conserved (crowded.emissions oneTick) (crowded.evictions oneTick) := by
  have accepted : lone.check = .ok () := by rfl
  have finished : (crowded.run oneTick).dispatch = .finished := by decide +kernel
  exact ⟨accepted, finished,
    stopped_conserves lone (fun _ _ => ⟨0.8, 0.5, 0⟩) (.seeded 7) accepted [] _ rfl
      { config := { rules := [insistent "a", insistent "b"] } } (.new 1) 1 none oneTick finished⟩

end Field

end Vivarium
