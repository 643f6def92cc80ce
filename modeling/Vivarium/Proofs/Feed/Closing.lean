import Vivarium.Feed
import Vivarium.Proofs.Queue.Law

/-!
# When a feed has said that it is closed

A poll that finds nothing asks afterwards whether the feed has been closed, and
meanwhile an observer may push and close. So "closed" does not say that nothing
is left: it says that nothing was left when the poll first looked. What is in
the queue when a poll says "closed" are the latest observations taken in between
its two looks, as many as there is room for. Later polls hand them out, and only
then do they say "closed" for good.

Nothing at all is left just if nothing came in between the two looks. The
smallest run in which something did is at the end of the module.

The queue is empty when a poll has found nothing in it, and until the poll looks
again only observers get at it. So what it holds then is told by the
observations taken in since the first look, and that is the invariant of a run.
After the end the queue is closed, nothing gets in, and the run is followed look
by look.
-/

namespace Vivarium

namespace Channel

variable {channel : Channel} {capacity : Nat} {late : List Observation}

/-- The observations taken in since the last poll began, after one more look. -/
def heard (channel : Channel) (late : List Observation) : Look → List Observation
  | .observe event => if (channel.queue.push event).1 then late ++ [event] else late
  | .close => late
  | .poll _ => []

/-- The observations taken in since the poller last looked. -/
def since (channel : Channel) (late : List Observation) : List Look → List Observation
  | [] => late
  | look :: rest => (channel.next look).since (channel.heard late look) rest

/-- Whether every poll asks for one observation at least. -/
def Willing (looks : List Look) : Prop :=
  ∀ max, Look.poll max ∈ looks → 1 ≤ max

/-- Whether the poller, if it has yet to look again, is told by the late observations what there is. -/
structure Waiting (capacity : Nat) (late : List Observation) (channel : Channel) : Prop where
  room : channel.queue.capacity = max capacity 1
  held : channel.asking = true →
    channel.queue.items = late.drop (late.length - max capacity 1)

/-! ## One look of the poller -/

/-- What can come of a look of the poller. -/
inductive Polled (channel : Channel) (max : Nat) : Option Poll × Channel → Prop where
  | closed (asking : channel.asking = true) (shut : channel.queue.closed = true) :
      Polled channel max (some (.error .closed), { channel with asking := false })
  | still (asking : channel.asking = true) (unshut : channel.queue.closed = false) :
      Polled channel max (some (.ok []), { channel with asking := false })
  | miss (idle : channel.asking = false) (empty : channel.queue.items = []) :
      Polled channel max (none, { channel with asking := true })
  | batch (idle : channel.asking = false) (held : channel.queue.items.take max ≠ []) :
      Polled channel max (some (.ok (channel.queue.items.take max)),
        { queue := (channel.queue.drain max).2 })

theorem look_poll (channel : Channel) {max : Nat} (pos : 1 ≤ max) :
    channel.Polled max (channel.look (.poll max)) := by
  obtain ⟨⟨bound, items, shut, dropped⟩, asking⟩ := channel
  cases asking with
  | true =>
      cases shut with
      | true => exact .closed rfl rfl
      | false => exact .still rfl rfl
  | false =>
      cases items with
      | nil =>
          have hnone : ([] : List Observation).take max = [] := List.take_nil
          simp only [look, Queue.drain, hnone, List.drop_nil]
          exact .miss rfl rfl
      | cons event rest =>
          obtain ⟨more, rfl⟩ : ∃ more, max = more + 1 := ⟨max - 1, by omega⟩
          exact .batch rfl (List.cons_ne_nil _ _)

/-! ## Before the end -/

theorem newest_of_push {queue : Queue Observation} (room : 0 < queue.capacity)
    (hopen : queue.closed = false) (event : Observation)
    (h : queue.items = late.drop (late.length - queue.capacity)) :
    (queue.push event).2.items =
      (late ++ [event]).drop ((late ++ [event]).length - queue.capacity) := by
  have hlength := congrArg List.length h
  rw [List.length_drop] at hlength
  by_cases hfull : queue.capacity ≤ queue.items.length
  · have hpush : (queue.push event).2.items = queue.items.tail ++ [event] := by
      simp [Queue.push, hopen, Queue.full, hfull]
    have hskip : (late ++ [event]).length - queue.capacity =
        late.length - queue.capacity + 1 := by
      rw [List.length_append, List.length_singleton]
      omega
    rw [hpush, h, hskip, List.tail_drop, List.drop_append_of_le_length (by omega)]
  · have hpush : (queue.push event).2.items = queue.items ++ [event] := by
      simp [Queue.push, hopen, Queue.full, hfull]
    have hnone : (late ++ [event]).length - queue.capacity = 0 := by
      rw [List.length_append, List.length_singleton]
      omega
    have hbefore : late.length - queue.capacity = 0 := by omega
    rw [hpush, h, hnone, hbefore, List.drop_zero, List.drop_zero]

theorem fresh_waiting (capacity : Nat) : (fresh capacity).Waiting capacity [] :=
  ⟨rfl, fun asking => by cases asking⟩

theorem Waiting.observed (h : channel.Waiting capacity late) (event : Observation) :
    (channel.next (.observe event)).Waiting capacity (channel.heard late (.observe event)) := by
  cases hclosed : channel.queue.closed with
  | true =>
      rw [next, look, heard, Queue.push_of_closed hclosed]
      exact h
  | false =>
      have hroom : 0 < channel.queue.capacity := by
        rw [h.room]
        omega
      rw [heard, if_pos (Queue.push_of_open hclosed event)]
      constructor
      · exact (Queue.pushed hroom hclosed event).capacity.trans h.room
      · intro asking
        have hheld := h.held asking
        rw [← h.room] at hheld ⊢
        exact newest_of_push hroom hclosed event hheld

theorem Waiting.polled (h : channel.Waiting capacity late) {max : Nat} (pos : 1 ≤ max) :
    (channel.next (.poll max)).Waiting capacity (channel.heard late (.poll max)) := by
  rw [next, heard]
  have hlook := look_poll channel pos
  generalize channel.look (.poll max) = result at hlook ⊢
  cases hlook with
  | closed | still | batch => exact ⟨h.room, fun asking => by cases asking⟩
  | miss idle empty =>
      refine ⟨h.room, fun _ => ?_⟩
      rw [List.drop_nil]
      exact empty

theorem Waiting.looked (h : channel.Waiting capacity late) {look : Look}
    (willing : ∀ max, look = .poll max → 1 ≤ max) :
    (channel.next look).Waiting capacity (channel.heard late look) := by
  cases look with
  | observe event => exact h.observed event
  | close => exact ⟨h.room, h.held⟩
  | poll max => exact h.polled (willing max rfl)

theorem Waiting.run (h : channel.Waiting capacity late) {looks : List Look}
    (willing : Willing looks) :
    (channel.after looks).Waiting capacity (channel.since late looks) := by
  induction looks generalizing channel late with
  | nil => exact h
  | cons look rest ih =>
      have hnext := h.looked fun max hlook => willing max (hlook ▸ List.mem_cons_self)
      exact ih hnext fun max hmem => willing max (List.mem_cons_of_mem _ hmem)

/-! ## After the end -/

/-- Whether a closed feed has nothing left when its poller has yet to look again. -/
structure Shut (channel : Channel) : Prop where
  closed : channel.queue.closed = true
  empty : channel.asking = true → channel.queue.items = []

/-- Whether some answers hand out some observations, and then say that the feed is closed, for good. -/
def HandsOut (events left : List Observation) (answers : List Poll) : Prop :=
  ∃ (batches : List (List Observation)) (count : Nat),
    answers = batches.map .ok ++ List.replicate count (.error .closed) ∧
    (∀ batch ∈ batches, batch ≠ []) ∧ batches.flatten ++ left = events ∧ (0 < count → left = [])

theorem HandsOut.said {left : List Observation} {answers : List Poll}
    (h : HandsOut [] left answers) : HandsOut [] left (.error .closed :: answers) := by
  obtain ⟨batches, count, hanswers, hsome, hall, -⟩ := h
  obtain ⟨hflat, hleft⟩ := List.append_eq_nil_iff.mp hall
  have hnone : batches = [] := by
    cases batches with
    | nil => rfl
    | cons batch rest =>
        rw [List.flatten_cons, List.append_eq_nil_iff] at hflat
        exact absurd hflat.1 (hsome batch List.mem_cons_self)
  subst hnone hanswers
  exact ⟨[], count + 1, rfl, hsome, hall, fun _ => hleft⟩

theorem HandsOut.given {batch events left : List Observation} {answers : List Poll}
    (h : HandsOut events left answers) (held : batch ≠ []) :
    HandsOut (batch ++ events) left (.ok batch :: answers) := by
  obtain ⟨batches, count, hanswers, hsome, hall, hend⟩ := h
  refine ⟨batch :: batches, count, ?_, ?_, ?_, hend⟩
  · rw [hanswers, List.map_cons, List.cons_append]
  · intro other hother
    rcases List.mem_cons.mp hother with rfl | hmem
    · exact held
    · exact hsome other hmem
  · rw [List.flatten_cons, List.append_assoc, hall]

theorem HandsOut.answers_closed {left : List Observation} {answers : List Poll}
    (h : HandsOut [] left answers) : ∀ answer ∈ answers, answer = .error .closed := by
  obtain ⟨batches, count, rfl, hsome, hall, -⟩ := h
  obtain ⟨hflat, -⟩ := List.append_eq_nil_iff.mp hall
  intro answer hanswer
  rcases List.mem_append.mp hanswer with hbatch | hclosed
  · obtain ⟨batch, hmem, -⟩ := List.mem_map.mp hbatch
    exact absurd (List.flatten_eq_nil_iff.mp hflat batch hmem) (hsome batch hmem)
  · exact List.eq_of_mem_replicate hclosed

theorem Shut.hands_out (h : channel.Shut) {looks : List Look} (willing : Willing looks) :
    HandsOut channel.queue.items (channel.after looks).queue.items (channel.answers looks) := by
  induction looks generalizing channel with
  | nil => exact ⟨[], 0, rfl, by simp, rfl, by simp⟩
  | cons look rest ih =>
      have hrest : Willing rest := fun max hmem => willing max (List.mem_cons_of_mem _ hmem)
      show HandsOut _ ((channel.next look).after rest).queue.items
        ((channel.answer look).toList ++ (channel.next look).answers rest)
      cases look with
      | observe event =>
          rw [answer, next, Channel.look, Queue.push_of_closed h.closed]
          exact ih h hrest
      | close =>
          have hshut : Shut (channel.next .close) := ⟨rfl, h.empty⟩
          exact ih hshut hrest
      | poll max =>
          have hlook := look_poll channel (willing max List.mem_cons_self)
          rw [answer, next]
          generalize channel.look (.poll max) = result at hlook ⊢
          cases hlook with
          | closed asking =>
              have hshut : Shut { channel with asking := false } :=
                ⟨h.closed, fun asking => by cases asking⟩
              have hall := ih hshut hrest
              rw [h.empty asking] at hall ⊢
              exact hall.said
          | still asking unshut =>
              rw [h.closed] at unshut
              cases unshut
          -- A poll that has found nothing is not over yet, so there is no answer to account for.
          | miss idle empty =>
              have hshut : Shut { channel with asking := true } := ⟨h.closed, fun _ => empty⟩
              exact ih hshut hrest
          | batch idle held =>
              have hshut : Shut { queue := (channel.queue.drain max).2 } :=
                ⟨h.closed, fun asking => by cases asking⟩
              have hall := (ih hshut hrest).given held
              rw [show channel.queue.items.take max ++ (channel.queue.drain max).2.items =
                channel.queue.items from channel.queue.drain_append max] at hall
              exact hall

/-! ## The moment of closing -/

/-- What is promised of a feed that a poll has just said to be closed, given what came in between
the two looks of that poll. -/
structure Parted (capacity : Nat) (late : List Observation) (channel : Channel) : Prop where
  closed : channel.queue.closed = true
  held : channel.queue.items = late.drop (late.length - max capacity 1)
  later : ∀ looks, Willing looks →
    HandsOut channel.queue.items (channel.after looks).queue.items (channel.answers looks)
  final_iff : (channel.queue.items = [] ∧ ∀ looks, Willing looks →
    ∀ answer ∈ channel.answers looks, answer = .error .closed) ↔ late = []

theorem Waiting.parted (h : channel.Waiting capacity late) (asking : channel.asking = true)
    (shut : channel.queue.closed = true) :
    Parted capacity late { channel with asking := false } := by
  have hshut : Shut { channel with asking := false } := ⟨shut, fun asking => by cases asking⟩
  have hheld := h.held asking
  refine ⟨shut, hheld, fun looks willing => hshut.hands_out willing, ?_⟩
  constructor
  · rintro ⟨hempty, -⟩
    -- there is room for one at least, so the last of them would still be there
    have hdrop : late.drop (late.length - max capacity 1) = [] := hheld.symm.trans hempty
    rw [List.drop_eq_nil_iff] at hdrop
    exact List.length_eq_zero_iff.mp (by omega)
  · intro hlate
    rw [hlate, List.drop_nil] at hheld
    refine ⟨hheld, fun looks willing => ?_⟩
    have hall := hshut.hands_out willing
    rw [show ({ channel with asking := false } : Channel).queue.items = [] from hheld] at hall
    exact hall.answers_closed

theorem closed_final_iff (capacity : Nat) (looks : List Look) (last : Look)
    (willing : Willing (looks ++ [last]))
    (said : ((fresh capacity).after looks).answer last = some (.error .closed)) :
    Parted capacity ((fresh capacity).since [] looks)
      (((fresh capacity).after looks).next last) := by
  have hwaiting := (fresh_waiting capacity).run fun max hmem =>
    willing max (List.mem_append_left _ hmem)
  generalize (fresh capacity).after looks = channel at said hwaiting ⊢
  cases last with
  | observe event => cases said
  | close => cases said
  | poll max =>
      have hlook := look_poll channel
        (willing max (List.mem_append_right _ (List.mem_singleton_self _)))
      rw [answer] at said
      rw [next]
      generalize channel.look (.poll max) = result at hlook said ⊢
      cases hlook with
      | closed asking shut => exact hwaiting.parted asking shut
      | still | miss | batch => cases said

/-- An observation that says no more than where it comes from. -/
def bare (source : String) : Observation :=
  { timestamp := .epoch, source }

/-- A poll finds nothing; three observations come in, for which there is room for two, and the end. -/
def surprised : List Look :=
  [.poll 4, .observe (bare "a"), .observe (bare "b"), .observe (bare "c"), .close]

theorem closed_final_iff_surprised :
    Willing (surprised ++ [.poll 4]) ∧
      ((fresh 2).after surprised).answer (.poll 4) = some (.error .closed) ∧
      Parted 2 [bare "a", bare "b", bare "c"] (((fresh 2).after surprised).next (.poll 4)) := by
  have willing : Willing (surprised ++ [.poll 4]) := by
    intro max hmem
    simp [surprised] at hmem
    omega
  exact ⟨willing, rfl, closed_final_iff 2 surprised (.poll 4) willing rfl⟩

theorem closed_too_soon :
    ((fresh 1).after [.poll 1, .observe (bare "late"), .close]).answer (.poll 1) =
        some (.error .closed) ∧
      (((fresh 1).after [.poll 1, .observe (bare "late"), .close, .poll 1]).queue.items =
        [bare "late"]) ∧
      (fresh 1).answers [.poll 1, .observe (bare "late"), .close, .poll 1, .poll 1] =
        [.error .closed, .ok [bare "late"]] :=
  ⟨rfl, rfl, rfl⟩

end Channel

end Vivarium
