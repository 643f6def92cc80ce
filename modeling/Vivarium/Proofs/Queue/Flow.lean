import Vivarium.Queue
import Mathlib.Tactic

/-!
# What goes through a queue

A push into an open queue puts one item in at the end, and if the queue is full
it puts one out at the front. So what has been pushed is, at any moment, what
has left the queue followed by what is still in it; and what has left, by being
taken or by being put out, left in the order in which it came. Two lists that
share out a third between them without touching its order are said to
interleave to it.
-/

namespace Vivarium

/-- Whether a list consists of two others, each in its own order. -/
inductive Interleaves {α : Type} : List α → List α → List α → Prop where
  | nil : Interleaves [] [] []
  | left {x : α} {xs ys zs : List α} : Interleaves xs ys zs → Interleaves (x :: xs) ys (x :: zs)
  | right {y : α} {xs ys zs : List α} : Interleaves xs ys zs → Interleaves xs (y :: ys) (y :: zs)

namespace Interleaves

variable {α : Type} {xs ys zs : List α}

theorem all_left (xs : List α) : Interleaves xs [] xs := by
  induction xs with
  | nil => exact .nil
  | cons x xs ih => exact .left ih

theorem all_right (ys : List α) : Interleaves [] ys ys := by
  induction ys with
  | nil => exact .nil
  | cons y ys ih => exact .right ih

theorem append {xs' ys' zs' : List α} (h : Interleaves xs ys zs) (h' : Interleaves xs' ys' zs') :
    Interleaves (xs ++ xs') (ys ++ ys') (zs ++ zs') := by
  induction h with
  | nil => exact h'
  | left _ ih => exact .left ih
  | right _ ih => exact .right ih

theorem sublist_left (h : Interleaves xs ys zs) : xs.Sublist zs := by
  induction h with
  | nil => exact .slnil
  | left _ ih => exact ih.cons_cons _
  | right _ ih => exact ih.cons _

theorem length_eq (h : Interleaves xs ys zs) : zs.length = xs.length + ys.length := by
  induction h with
  | nil => rfl
  | left _ ih =>
    rw [List.length_cons, List.length_cons, ih]
    omega
  | right _ ih =>
    rw [List.length_cons, List.length_cons, ih]
    omega

theorem perm (h : Interleaves xs ys zs) : zs.Perm (xs ++ ys) := by
  induction h with
  | nil => exact .nil
  | left _ ih => exact ih.cons _
  | right _ ih => exact (ih.cons _).trans List.perm_middle.symm

theorem filter_eq_right {p : α → Bool} (h : Interleaves xs ys zs) (hleft : ∀ x ∈ xs, p x = false)
    (hright : ∀ y ∈ ys, p y = true) : zs.filter p = ys := by
  induction h with
  | nil => rfl
  | left _ ih =>
    rw [List.forall_mem_cons] at hleft
    rw [List.filter_cons_of_neg (by simp [hleft.1])]
    exact ih hleft.2 hright
  | right _ ih =>
    rw [List.forall_mem_cons] at hright
    rw [List.filter_cons_of_pos hright.1, ih hleft hright.2]

end Interleaves

namespace Queue

variable {α : Type} {queue : Queue α}

/-- The item that the next push puts out. -/
def ousted (queue : Queue α) : Option α :=
  if !queue.closed && queue.full then queue.items.head? else none

/-- What a push does to an open queue. -/
structure Pushed (before after : Queue α) (item : α) : Prop where
  items : before.items ++ [item] = before.ousted.toList ++ after.items
  dropped : after.dropped = before.dropped + before.ousted.toList.length
  capacity : after.capacity = before.capacity
  closed : after.closed = before.closed
  ready : after.ready = true

theorem ready_of_items {item : α} {rest : List α} (h : queue.items = rest ++ [item]) :
    queue.ready = true := by
  rw [ready, h]
  cases rest with
  | nil => rfl
  | cons _ _ => rfl

/-- A full queue holds an item because there is room for one at least. -/
theorem pushed (room : 0 < queue.capacity) (hopen : queue.closed = false) (item : α) :
    queue.Pushed (queue.push item).2 item := by
  have hpush : queue.push item = if queue.full then
      (true, { queue with items := queue.items.tail ++ [item], dropped := queue.dropped + 1 })
      else (true, { queue with items := queue.items ++ [item] }) := by
    rw [push, hopen]
    rfl
  have housted : queue.ousted = if queue.full then queue.items.head? else none := by
    rw [ousted, hopen]
    rfl
  rw [hpush]
  by_cases hfull : queue.full = true
  · rw [if_pos hfull] at housted ⊢
    cases hitems : queue.items with
    | nil =>
      rw [full, hitems, decide_eq_true_eq] at hfull
      exact absurd (Nat.lt_of_lt_of_le room hfull) (Nat.lt_irrefl 0)
    | cons first rest =>
      rw [hitems] at housted
      refine ⟨?_, ?_, rfl, rfl, ready_of_items rfl⟩
      · rw [housted, hitems]
        rfl
      · rw [housted]
        rfl
  · rw [if_neg hfull] at housted ⊢
    refine ⟨?_, ?_, rfl, rfl, ready_of_items rfl⟩
    · rw [housted]
      rfl
    · rw [housted]
      rfl

end Queue

end Vivarium
