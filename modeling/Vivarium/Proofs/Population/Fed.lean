import Vivarium.Population.Fed
import Vivarium.Proofs.Context.Acceptance
import Vivarium.Proofs.Feed.Closing
import Vivarium.Proofs.Population.Run

/-!
# No observation is lost on its way to a tick

An observation that the feed accepted is, at any moment, in one of three places:
a later push has put it out, it is still in the queue, or a tick has ingested
it. The ticks ingest in the order in which the feed accepted, and nothing twice.
A tick cuts off what exceeds its batch size, but it has polled for no more, so
there is nothing to cut off; and it reports all it ingested that counts.

The queue keeps this balance whoever uses it, so all there is to show is that
what the polls hand out is what the ticks ingest. The second look of a poll that
found nothing hands nothing out, whatever it says: "closed" may come too soon,
but what is in the queue then stays there for the ticks that follow.
-/

namespace Vivarium

/-! ## One poll -/

namespace Channel

variable {channel : Channel} {capacity max : Nat} {taken given lost : List Observation}
  {result : Option Poll × Channel}

theorem Polled.balanced (polled : channel.Polled max result)
    (h : channel.queue.Balanced capacity taken given lost) :
    result.2.queue.Balanced capacity taken (given ++ result.1.toList.flatMap Poll.batch) lost := by
  cases polled with
  | closed | still | miss =>
      rw [← List.append_nil given] at h
      exact h
  | batch =>
      have hdrained := h.drained max
      rw [← List.append_nil (channel.queue.drain max).1] at hdrained
      exact hdrained

theorem Polled.length_le (polled : channel.Polled max result) :
    ∀ poll ∈ result.1, poll.batch.length ≤ max := by
  cases polled with
  | closed | still =>
      rintro poll ⟨⟩
      exact Nat.zero_le max
  | miss =>
      rintro poll ⟨⟩
  | batch =>
      rintro poll ⟨⟩
      exact List.length_take_le max _

end Channel

/-! ## One tick -/

theorem Ingest.counts_of (batchSize : Nat) (context : Context) (poll : Poll) :
    Counts (poll.batch.take batchSize) (Ingest.of batchSize context poll).observations := by
  cases poll with
  | ok batch => exact Context.counts_accept (batch.take batchSize)
  | error cause =>
      rw [Poll.batch, List.take_nil]
      exact ⟨[], ⟨.nil, .nil, fun _ => rfl⟩, .nil⟩

theorem Ingest.context_of {batchSize : Nat} {context : Context} {poll : Poll}
    (h : ∀ event ∈ poll.batch.take batchSize, event.affect.isFinite = false) :
    (Ingest.of batchSize context poll).context = context := by
  cases poll with
  | ok batch =>
      have haccept : Context.accept (batch.take batchSize) = [] := Context.accept_eq_nil h
      have hnone : Context.ofBatch (batch.take batchSize) = (none, []) := by
        rw [Context.ofBatch, haccept]
        rfl
      rw [Ingest.of, hnone]
      rfl
  | error cause => rfl

namespace Population

variable {population next : Population} {poll : Poll} {report : TickReport}

theorem ingest_of_tick (h : population.tick poll = .ok (report, next)) :
    report.observations =
        (Ingest.of population.config.population.batchSize population.context poll).observations ∧
      next.context =
        (Ingest.of population.config.population.batchSize population.context poll).context := by
  obtain ⟨founders, children, middle, stages, account, rfl, rfl⟩ := account_of_tick h
  rw [← account.ingest]
  exact ⟨rfl, rfl⟩

theorem sound_of_tick (sound : population.Sound) (h : population.tick poll = .ok (report, next)) :
    next.Sound := by
  obtain ⟨founders, children, middle, stages, account, rfl, -⟩ := account_of_tick h
  exact account.after_sound sound

/-- Whether some ticks lead from one population to another, each from where the last one ended. -/
inductive Leads (start : Population) : List PolledTick → Population → Prop where
  | nil : Leads start [] start
  | snoc {ticks : List PolledTick} {tick : PolledTick} (before : Leads start ticks tick.before)
      (answer : tick.before.tick tick.poll = .ok (tick.report, tick.after)) :
      Leads start (ticks ++ [tick]) tick.after

theorem Leads.answer {start : Population} {ticks : List PolledTick} (h : start.Leads ticks next) :
    ∀ tick ∈ ticks, tick.before.tick tick.poll = .ok (tick.report, tick.after) := by
  induction h with
  | nil => simp
  | snoc _ answer ih =>
      intro tick htick
      rcases List.mem_append.mp htick with hearlier | hlast
      · exact ih tick hearlier
      · cases List.mem_singleton.mp hlast
        exact answer

end Population

/-! ## One move -/

/-- What is to be seen of some moves: the observations that the feed accepted, those that it put
out again, and the ticks. -/
structure Traffic where
  accepted : List Observation := []
  evicted : List Observation := []
  ticks : List PolledTick := []

namespace Fed

variable {fed : Fed} {start : Population} {capacity : Nat} {traffic : Traffic}
  {taken given lost : List Observation}

/-- The observations that the feed accepts in a move. -/
def intake (fed : Fed) : Move → List Observation
  | .push event => fed.channel.queue.intake (.push event)
  | .close => []
  | .look => []

/-- The observations that the feed puts out in a move. -/
def loss (fed : Fed) : Move → List Observation
  | .push event => fed.channel.queue.loss (.push event)
  | .close => []
  | .look => []

/-- Makes a move, and notes what is to be seen of it. -/
def watchMove (past : Traffic × Fed) (move : Move) : Except Fault (Traffic × Fed) := do
  let (tick, next) ← past.2.step move
  return (
    { accepted := past.1.accepted ++ past.2.intake move
      evicted := past.1.evicted ++ past.2.loss move
      ticks := past.1.ticks ++ tick.toList },
    next)

/-- Makes some moves, and notes what is to be seen of them. -/
def watch (fed : Fed) (moves : List Move) : Except Fault (Traffic × Fed) :=
  moves.foldlM watchMove ({}, fed)

theorem balanced_look (h : fed.channel.queue.Balanced capacity taken given lost)
    (pos : 1 ≤ fed.population.config.population.batchSize) (move : Move) :
    (fed.channel.next (fed.lookOf move)).queue.Balanced capacity (taken ++ fed.intake move)
      (given ++ (fed.channel.answer (fed.lookOf move)).toList.flatMap Poll.batch)
      (lost ++ fed.loss move) := by
  cases move with
  | push event => exact h.used (.push event)
  | close => exact h.used .close
  | look =>
      have hpolled := (fed.channel.look_poll pos).balanced h
      rw [← List.append_nil taken, ← List.append_nil lost] at hpolled
      exact hpolled

theorem length_answer_le (pos : 1 ≤ fed.population.config.population.batchSize) (move : Move) :
    ∀ poll ∈ fed.channel.answer (fed.lookOf move),
      poll.batch.length ≤ fed.population.config.population.batchSize := by
  cases move with
  | push event =>
      rintro poll ⟨⟩
  | close =>
      rintro poll ⟨⟩
  | look => exact (fed.channel.look_poll pos).length_le

/-- What every move keeps. -/
structure Kept (start : Population) (capacity : Nat) (traffic : Traffic) (fed : Fed) : Prop where
  sound : fed.population.Sound
  leads : start.Leads traffic.ticks fed.population
  balanced : fed.channel.queue.Balanced capacity traffic.accepted
    (traffic.ticks.flatMap (·.poll.batch)) traffic.evicted
  fits : ∀ tick ∈ traffic.ticks,
    tick.poll.batch.length ≤ tick.before.config.population.batchSize

theorem start_kept (sound : start.Sound) (capacity : Nat) :
    Kept start capacity {} (Fed.start start capacity) where
  sound := sound
  leads := .nil
  balanced := Queue.new_balanced capacity
  fits := by simp

theorem Kept.ticked (kept : Kept start capacity traffic fed) {poll : Poll} {report : TickReport}
    {after : Population} {channel : Channel} {taken lost : List Observation}
    (htick : fed.population.tick poll = .ok (report, after))
    (balanced : channel.queue.Balanced capacity taken
      (traffic.ticks.flatMap (·.poll.batch) ++ poll.batch) lost)
    (fits : poll.batch.length ≤ fed.population.config.population.batchSize) :
    Kept start capacity
      { accepted := taken
        evicted := lost
        ticks := traffic.ticks ++ [{ poll, before := fed.population, report, after }] }
      { population := after, channel } where
  sound := Population.sound_of_tick kept.sound htick
  leads := Population.Leads.snoc kept.leads htick
  balanced := by
    rw [List.flatMap_append, List.flatMap_singleton]
    exact balanced
  fits := by
    intro tick hmem
    rcases List.mem_append.mp hmem with hearlier | hlast
    · exact kept.fits tick hearlier
    · cases List.mem_singleton.mp hlast
      exact fits

/-- A move that ends no poll leaves the population alone, and one that does lets it tick. -/
theorem Kept.moved (kept : Kept start capacity traffic fed) (move : Move) :
    ∃ later next, watchMove (traffic, fed) move = .ok (later, next) ∧
      Kept start capacity later next := by
  have pos := kept.sound.valid.batch_positive
  have hbalanced := balanced_look kept.balanced pos move
  have hlook : fed.channel.look (fed.lookOf move) =
    (fed.channel.answer (fed.lookOf move), fed.channel.next (fed.lookOf move)) := rfl
  cases hanswer : fed.channel.answer (fed.lookOf move) with
  | none =>
      have hstep : fed.step move =
          .ok (none, { fed with channel := fed.channel.next (fed.lookOf move) }) := by
        rw [step, hlook, hanswer]
        rfl
      rw [hanswer, Option.toList_none, List.flatMap_nil, List.append_nil] at hbalanced
      refine ⟨_, _, bind_eq_ok.mpr ⟨_, hstep, rfl⟩, ?_⟩
      rw [Option.toList_none, List.append_nil]
      exact ⟨kept.sound, kept.leads, hbalanced, kept.fits⟩
  | some poll =>
      obtain ⟨report, after, htick⟩ := Population.exists_tick kept.sound poll
      have hstep : fed.step move = .ok (
          some { poll, before := fed.population, report, after },
          { population := after, channel := fed.channel.next (fed.lookOf move) }) := by
        rw [step, hlook, hanswer]
        exact bind_eq_ok.mpr ⟨_, htick, rfl⟩
      rw [hanswer, Option.toList_some, List.flatMap_singleton] at hbalanced
      exact ⟨_, _, bind_eq_ok.mpr ⟨_, hstep, rfl⟩,
        kept.ticked htick hbalanced (length_answer_le pos move poll hanswer)⟩

/-! ## Any moves -/

theorem exists_kept (sound : start.Sound) (capacity : Nat) (moves : List Move) :
    ∃ traffic fed, (Fed.start start capacity).watch moves = .ok (traffic, fed) ∧
      Kept start capacity traffic fed := by
  induction moves using List.reverseRecOn with
  | nil => exact ⟨{}, Fed.start start capacity, rfl, start_kept sound capacity⟩
  | append_singleton moves move ih =>
      obtain ⟨traffic, fed, hwatch, kept⟩ := ih
      obtain ⟨later, next, hmove, hkept⟩ := kept.moved move
      exact ⟨later, next, foldlM_concat hwatch hmove, hkept⟩

/-- What is promised of the observations that pass between observers and ticks. -/
structure Delivers (start : Population) (traffic : Traffic) (fed : Fed) : Prop where
  leads : start.Leads traffic.ticks fed.population
  places : ∃ gone, traffic.accepted = gone ++ fed.channel.queue.items ∧
    Interleaves (traffic.ticks.flatMap PolledTick.ingested) traffic.evicted gone
  counted : ∀ p : Observation → Bool, traffic.accepted.countP p =
    (traffic.ticks.map (·.ingested.countP p)).sum + traffic.evicted.countP p +
      fed.channel.queue.items.countP p
  dropped : fed.channel.queue.dropped = traffic.evicted.length
  ordered : (traffic.ticks.flatMap PolledTick.ingested).Sublist traffic.accepted
  whole : ∀ tick ∈ traffic.ticks, tick.ingested = tick.poll.batch
  reports : ∀ tick ∈ traffic.ticks, Counts tick.ingested tick.report.observations
  stale : ∀ tick ∈ traffic.ticks, (∀ event ∈ tick.ingested, event.affect.isFinite = false) →
    tick.after.context = tick.before.context

theorem Kept.delivers (kept : Kept start capacity traffic fed) : Delivers start traffic fed := by
  have hwhole : ∀ tick ∈ traffic.ticks, tick.ingested = tick.poll.batch :=
    fun tick htick => List.take_of_length_le (kept.fits tick htick)
  have hingested : traffic.ticks.flatMap PolledTick.ingested =
      traffic.ticks.flatMap (·.poll.batch) := List.flatMap_congr hwhole
  obtain ⟨gone, haccepted, hplaces⟩ := kept.balanced.places
  rw [← hingested] at hplaces
  constructor
  case leads => exact kept.leads
  case places => exact ⟨gone, haccepted, hplaces⟩
  case counted =>
    intro p
    rw [haccepted, List.countP_append, hplaces.perm.countP_eq, List.countP_append,
      List.countP_flatMap]
    rfl
  case dropped => exact kept.balanced.dropped
  case ordered =>
    rw [haccepted]
    exact hplaces.sublist_left.trans (List.sublist_append_left _ _)
  case whole => exact hwhole
  case reports =>
    intro tick htick
    obtain ⟨hobservations, -⟩ := Population.ingest_of_tick (kept.leads.answer tick htick)
    rw [hobservations]
    exact Ingest.counts_of _ _ _
  case stale =>
    intro tick htick hnone
    obtain ⟨-, hcontext⟩ := Population.ingest_of_tick (kept.leads.answer tick htick)
    rw [hcontext]
    exact Ingest.context_of hnone

theorem watch_delivers (config : FieldConfig) (interpret : Interpreter) (source : Random.Source)
    (accepted : config.check = .ok ()) (calls : List Call)
    (reached : (Population.fresh config interpret source).run calls = .ok start)
    (capacity : Nat) (moves : List Move) :
    ∃ traffic fed, (Fed.start start capacity).watch moves = .ok (traffic, fed) ∧
      Delivers start traffic fed := by
  have sound := Population.sound_of_run accepted reached
  obtain ⟨traffic, fed, hwatch, kept⟩ := exists_kept sound capacity moves
  exact ⟨traffic, fed, hwatch, kept.delivers⟩

/-- A population with one cell, which neither dies nor has children. -/
def hermit : Except Fault Population :=
  (Population.fresh {} (fun _ _ => ⟨0, 0.5, 0.5⟩) (.seeded 7)).run
    [.replay [.fitness ⟨3, 17, .recurrent 2 64, ⟨0.9, 0.4, 0.25, 0.25, false⟩⟩]]

/-- A poll finds nothing; three observations come in, and the end, before it looks again. -/
def hurried : List Move :=
  [.look, .push ⟨.epoch, "a", "", 0⟩, .push ⟨.epoch, "b", "", 3⟩, .push ⟨.epoch, "c", "", 0 / 0⟩,
    .close, .look, .look, .look, .look]

theorem watch_delivers_hurried :
    ∃ start traffic fed, FieldConfig.check {} = .ok () ∧ hermit = .ok start ∧
      (Fed.start start 2).watch hurried = .ok (traffic, fed) ∧
      traffic.evicted.map (·.source) = ["a"] ∧
      traffic.ticks.map (·.ingested.map (·.source)) = [[], ["b", "c"], []] ∧
      Delivers start traffic fed := by
  have accepted : FieldConfig.check {} = .ok () := by rfl
  obtain ⟨start, traced⟩ := Population.exists_traced (Population.fresh_sound
    (FieldConfig.valid_of_check accepted) (fun _ _ => ⟨0, 0.5, 0.5⟩) (.seeded 7)) rfl
    [.replay [.fitness ⟨3, 17, .recurrent 2 64, ⟨0.9, 0.4, 0.25, 0.25, false⟩⟩]]
  have hhermit : hermit = .ok start := traced.answer
  obtain ⟨traffic, fed, hwatch, delivers⟩ :=
    watch_delivers {} _ _ accepted _ traced.answer 2 hurried
  have hseen : (hermit.toOption.bind fun start =>
      ((Fed.start start 2).watch hurried).toOption.map fun seen =>
        (seen.1.evicted.map (·.source), seen.1.ticks.map (·.ingested.map (·.source)))) =
      some (["a"], [[], ["b", "c"], []]) := by
    decide +kernel
  rw [hhermit] at hseen
  change (((Fed.start start 2).watch hurried).toOption.map _) = _ at hseen
  rw [hwatch] at hseen
  have hparts := Option.some.inj hseen
  simp only [Prod.mk.injEq] at hparts
  exact ⟨start, traffic, fed, accepted, hhermit, hwatch, hparts.1, hparts.2, delivers⟩

end Fed

end Vivarium
