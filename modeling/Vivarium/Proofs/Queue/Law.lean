import Vivarium.Proofs.Queue.Flow
import Vivarium.Queue.Run

/-!
# What a queue makes of its items

As long as a queue is open it accepts whatever it is given, and the item stands
last. However producers and consumers take turns, an item that was accepted is
in one place: it has been drained, it has been put out by a later push, or it is
still in the queue. The queue holds the latest of what it accepted, and what has
left it left from the front, so both the drained items and those put out are in
the order in which they were accepted, and between them they are all the earlier
ones.

One invariant carries this through a run. A push is the only use that it is any
work for, since a push may put an item in and another one out, and what it does
then has been said in `Queue.pushed`. After the queue is closed nothing comes in
any more and nothing is put out, so the drains get exactly what it held.
-/

namespace Vivarium

namespace Queue

variable {α : Type} {queue : Queue α} {capacity : Nat} {taken given lost : List α}

/-- The items that a use puts out of the queue. -/
def loss (queue : Queue α) : Use α → List α
  | .push _ => queue.ousted.toList
  | .drain _ => []
  | .close => []

/-- The items put out in the course of a run. -/
def evicted (queue : Queue α) (uses : List (Use α)) : List α :=
  queue.seen loss uses

/-! ## One use -/

theorem ousted_of_closed (h : queue.closed = true) : queue.ousted = none := by
  simp [ousted, h]

theorem ousted_of_full (hopen : queue.closed = false) (hfull : queue.full = true) :
    queue.ousted = queue.items.head? := by
  simp [ousted, hopen, hfull]

/-- Where the item stands that an open queue was given last. -/
theorem getLast?_push_of_open (h : queue.closed = false) (item : α) :
    (queue.push item).2.items.getLast? = some item := by
  rw [push, h]
  by_cases hfull : queue.full = true
  · simp [hfull]
  · simp [hfull]

theorem length_push_le (room : 0 < queue.capacity) (hopen : queue.closed = false)
    (h : queue.items.length ≤ queue.capacity) (item : α) :
    (queue.push item).2.items.length ≤ queue.capacity := by
  have hlength := congrArg List.length (queue.pushed room hopen item).items
  simp only [List.length_append, List.length_singleton] at hlength
  by_cases hfull : queue.full = true
  · -- a full queue is not empty, so it puts an item out for the one it takes in
    have hcapacity : queue.capacity ≤ queue.items.length := by simpa [full] using hfull
    rw [ousted_of_full hopen hfull] at hlength
    cases hitems : queue.items with
    | nil =>
        rw [hitems, List.length_nil] at hcapacity
        omega
    | cons oldest rest =>
        rw [hitems] at hlength h
        simp only [List.head?_cons, Option.toList_some, List.length_cons, List.length_nil]
          at hlength h
        omega
  · have hroom : queue.items.length < queue.capacity := by simpa [full] using hfull
    omega

/-- Whether a queue accounts for what it accepted, given what was drained and what was put out. -/
structure Balanced (capacity : Nat) (taken given lost : List α) (queue : Queue α) : Prop where
  places : ∃ gone, taken = gone ++ queue.items ∧ Interleaves given lost gone
  dropped : queue.dropped = lost.length
  capacity : queue.capacity = max capacity 1
  bounded : queue.items.length ≤ queue.capacity

theorem new_balanced (capacity : Nat) : (new capacity : Queue α).Balanced capacity [] [] [] :=
  ⟨⟨[], rfl, .nil⟩, rfl, rfl, Nat.zero_le _⟩

theorem Balanced.room (h : queue.Balanced capacity taken given lost) : 0 < queue.capacity := by
  have := h.capacity
  omega

theorem Balanced.pushed (h : queue.Balanced capacity taken given lost)
    (hopen : queue.closed = false) (item : α) :
    (queue.push item).2.Balanced capacity (taken ++ [item]) given
      (lost ++ queue.ousted.toList) := by
  have push := queue.pushed h.room hopen item
  obtain ⟨gone, htaken, hplaces⟩ := h.places
  refine ⟨⟨gone ++ queue.ousted.toList, ?_, ?_⟩, ?_, push.capacity.trans h.capacity, ?_⟩
  · rw [htaken, List.append_assoc, List.append_assoc, push.items]
  · have hout := hplaces.append (.all_right queue.ousted.toList)
    rw [List.append_nil] at hout
    exact hout
  · rw [push.dropped, h.dropped, List.length_append]
  · rw [push.capacity]
    exact length_push_le h.room hopen h.bounded item

theorem Balanced.drained (h : queue.Balanced capacity taken given lost) (max : Nat) :
    (queue.drain max).2.Balanced capacity taken (given ++ (queue.drain max).1) lost := by
  obtain ⟨gone, htaken, hplaces⟩ := h.places
  refine ⟨⟨gone ++ (queue.drain max).1, ?_, ?_⟩, h.dropped, h.capacity, ?_⟩
  · rw [htaken, List.append_assoc, queue.drain_append]
  · have hout := hplaces.append (.all_left (queue.drain max).1)
    rw [List.append_nil] at hout
    exact hout
  · have hbounded := h.bounded
    show (queue.items.drop max).length ≤ queue.capacity
    rw [List.length_drop]
    omega

theorem Balanced.used (h : queue.Balanced capacity taken given lost) (use : Use α) :
    (queue.use use).Balanced capacity (taken ++ queue.intake use) (given ++ queue.output use)
      (lost ++ queue.loss use) := by
  cases use with
  | push item =>
      cases hclosed : queue.closed with
      | true =>
          rw [Queue.use, intake, output, loss, push_of_closed hclosed, ousted_of_closed hclosed]
          simpa using h
      | false =>
          rw [Queue.use, intake, output, loss, push_of_open hclosed]
          simpa using h.pushed hclosed item
  | drain max =>
      rw [Queue.use, intake, output, loss]
      simpa using h.drained max
  | close =>
      rw [Queue.use, intake, output, loss]
      simpa using (⟨h.places, h.dropped, h.capacity, h.bounded⟩ :
        queue.close.Balanced capacity taken given lost)

/-! ## A whole run -/

theorem Balanced.run (h : queue.Balanced capacity taken given lost) (uses : List (Use α)) :
    (queue.useAll uses).Balanced capacity (taken ++ queue.accepted uses)
      (given ++ queue.drained uses) (lost ++ queue.evicted uses) := by
  induction uses generalizing queue taken given lost with
  | nil => simpa [useAll, accepted, Queue.drained, evicted, seen] using h
  | cons use rest ih =>
      have hrest := ih (h.used use)
      rw [List.append_assoc, List.append_assoc, List.append_assoc] at hrest
      exact hrest

theorem useAll_append (queue : Queue α) (uses more : List (Use α)) :
    queue.useAll (uses ++ more) = (queue.useAll uses).useAll more :=
  List.foldl_append

theorem seen_append (see : Queue α → Use α → List α) (queue : Queue α)
    (uses more : List (Use α)) :
    queue.seen see (uses ++ more) = queue.seen see uses ++ (queue.useAll uses).seen see more := by
  induction uses generalizing queue with
  | nil => rfl
  | cons use rest ih =>
      rw [List.cons_append, seen, ih, seen, List.append_assoc]
      rfl

/-! ## Before the end -/

theorem open_use (h : queue.closed = false) {use : Use α} (unclosed : use ≠ .close) :
    (queue.use use).closed = false := by
  cases use with
  | push item =>
      rw [Queue.use, push, h]
      by_cases hfull : queue.full = true
      · simp [hfull]
      · simp [hfull]
  | drain max => exact h
  | close => exact absurd rfl unclosed

theorem open_useAll (h : queue.closed = false) {uses : List (Use α)} (unclosed : .close ∉ uses) :
    (queue.useAll uses).closed = false := by
  induction uses generalizing queue with
  | nil => exact h
  | cons use rest ih =>
      rw [List.mem_cons, not_or] at unclosed
      exact ih (open_use h (Ne.symm unclosed.1)) unclosed.2

/-! ## After the end -/

theorem closed_use (h : queue.closed = true) (use : Use α) : (queue.use use).closed = true := by
  cases use with
  | push item =>
      rw [Queue.use, push_of_closed h]
      exact h
  | drain max => exact h
  | close => rfl

theorem intake_of_closed (h : queue.closed = true) (use : Use α) : queue.intake use = [] := by
  cases use with
  | push item =>
      rw [intake, push_of_closed h]
      rfl
  | drain max => rfl
  | close => rfl

theorem output_append_of_closed (h : queue.closed = true) (use : Use α) :
    queue.output use ++ (queue.use use).items = queue.items := by
  cases use with
  | push item =>
      rw [output, Queue.use, push_of_closed h]
      rfl
  | drain max => exact queue.drain_append max
  | close => rfl

theorem accepted_of_closed (h : queue.closed = true) (uses : List (Use α)) :
    queue.accepted uses = [] := by
  induction uses generalizing queue with
  | nil => rfl
  | cons use rest ih =>
      show queue.intake use ++ (queue.use use).accepted rest = []
      rw [intake_of_closed h, ih (closed_use h use)]
      rfl

theorem drained_append_of_closed (h : queue.closed = true) (uses : List (Use α)) :
    queue.drained uses ++ (queue.useAll uses).items = queue.items := by
  induction uses generalizing queue with
  | nil => rfl
  | cons use rest ih =>
      show (queue.output use ++ (queue.use use).drained rest) ++
        ((queue.use use).useAll rest).items = queue.items
      rw [List.append_assoc, ih (closed_use h use), output_append_of_closed h]

/-! ## The law -/

/-- What is promised of a queue after any run. -/
structure Lawful (capacity : Nat) (queue : Queue α) (uses : List (Use α)) : Prop where
  takes : .close ∉ uses → ∀ item, ((queue.useAll uses).push item).1 = true ∧
    ((queue.useAll uses).push item).2.items.getLast? = some item
  suffix : (queue.useAll uses).items <:+ queue.accepted uses
  bounded : (queue.useAll uses).items.length ≤ max capacity 1
  places : ∃ gone, queue.accepted uses = gone ++ (queue.useAll uses).items ∧
    (queue.drained uses).Sublist gone ∧
    Interleaves (queue.drained uses) (queue.evicted uses) gone
  put_out : ∀ before item after, uses = before ++ .push item :: after →
    ∀ oldest ∈ (queue.useAll before).loss (.push item),
      (queue.useAll before).items.length = max capacity 1 ∧
        ∃ rest, (queue.useAll before).items = oldest :: rest ∧
          (queue.useAll (before ++ [.push item])).items = rest ++ [item]
  counted : (queue.useAll uses).dropped = (queue.evicted uses).length
  balance : (queue.useAll uses).dropped + (queue.drained uses).length +
    (queue.useAll uses).items.length = (queue.accepted uses).length
  shut : ∀ before after, uses = before ++ .close :: after →
    queue.accepted uses = queue.accepted before ∧
      (queue.useAll before).items =
        (queue.useAll (before ++ [.close])).drained after ++ (queue.useAll uses).items
  drains : ∀ max, ((queue.useAll uses).drain max).1.length =
    min max (queue.useAll uses).items.length

theorem Balanced.put_out (h : queue.Balanced capacity taken given lost) {item oldest : α}
    (hlost : oldest ∈ queue.loss (.push item)) :
    queue.items.length = max capacity 1 ∧
      ∃ rest, queue.items = oldest :: rest ∧ (queue.use (.push item)).items = rest ++ [item] := by
  rw [loss, Option.mem_toList, ousted] at hlost
  split at hlost
  · next hfull =>
      rw [Bool.and_eq_true, Bool.not_eq_true'] at hfull
      obtain ⟨hopen, hfull⟩ := hfull
      obtain ⟨rest, hitems⟩ := List.head?_eq_some_iff.mp hlost
      have hbounded := h.bounded
      have hcapacity := h.capacity
      refine ⟨?_, rest, hitems, ?_⟩
      · rw [full, decide_eq_true_eq] at hfull
        omega
      · simp [Queue.use, push, hopen, hfull, hitems]
  · cases hlost

theorem useAll_lawful (capacity : Nat) (uses : List (Use α)) :
    Lawful capacity (new capacity) uses := by
  have balanced := (new_balanced capacity : (new capacity : Queue α).Balanced _ _ _ _).run
  obtain ⟨gone, htaken, hplaces⟩ := (balanced uses).places
  have hlength := hplaces.length_eq
  have hdropped := (balanced uses).dropped
  simp only [List.nil_append] at htaken hplaces hlength hdropped
  constructor
  · intro unclosed item
    have hopen : ((new capacity : Queue α).useAll uses).closed = false := open_useAll rfl unclosed
    exact ⟨push_of_open hopen item, getLast?_push_of_open hopen item⟩
  · exact ⟨gone, htaken.symm⟩
  · rw [← (balanced uses).capacity]
    exact (balanced uses).bounded
  · exact ⟨gone, htaken, hplaces.sublist_left, hplaces⟩
  · intro before item after _ oldest hlost
    rw [useAll_append]
    exact (balanced before).put_out hlost
  · exact hdropped
  · rw [htaken, List.length_append]
    omega
  · intro before after huses
    subst huses
    -- the run is cut behind the close: nothing comes in there, and what was held is drained or left
    have hclosed : ((new capacity : Queue α).useAll (before ++ [.close])).closed = true := by
      rw [useAll_append]
      rfl
    have hsplit : before ++ Use.close :: after = (before ++ [.close]) ++ after := by simp
    constructor
    · rw [accepted, hsplit, seen_append, seen_append]
      show _ ++ _ ++ ((new capacity).useAll (before ++ [.close])).accepted after = _
      rw [accepted_of_closed hclosed]
      simp [seen, intake, accepted]
    · rw [hsplit, useAll_append _ _ after, drained_append_of_closed hclosed, useAll_append]
      rfl
  · intro max
    exact List.length_take

end Queue

end Vivarium
