import Mathlib.Tactic

/-!
# Folds that keep one of two

A search through a list keeps the better of what it has and what comes next. It
ends with an item of the list, and if what it keeps stands before both of the
two, it ends with one that stands before all.
-/

namespace Vivarium

variable {α : Type} {pick : α → α → α}

theorem foldl_pick_mem (hone : ∀ a b, pick a b = a ∨ pick a b = b) (first : α) (rest : List α) :
    rest.foldl pick first ∈ first :: rest := by
  induction rest generalizing first with
  | nil => exact List.mem_singleton_self first
  | cons next rest ih =>
      rcases List.mem_cons.mp (ih (pick first next)) with hkept | hlater
      · rw [List.foldl_cons, hkept]
        rcases hone first next with hfirst | hnext
        · rw [hfirst]
          exact List.mem_cons_self
        · rw [hnext]
          exact List.mem_cons_of_mem _ List.mem_cons_self
      · exact List.mem_cons_of_mem _ (List.mem_cons_of_mem _ hlater)

theorem foldl_pick_before {R : α → α → Prop} (hrefl : ∀ a, R a a)
    (htrans : ∀ {a b c}, R a b → R b c → R a c)
    (hpick : ∀ a b, R (pick a b) a ∧ R (pick a b) b) (first : α) (rest : List α) :
    ∀ item ∈ first :: rest, R (rest.foldl pick first) item := by
  induction rest generalizing first with
  | nil =>
      intro item hitem
      rw [List.mem_singleton.mp hitem]
      exact hrefl first
  | cons next rest ih =>
      have hall := ih (pick first next)
      have hkept := hall _ List.mem_cons_self
      intro item hitem
      rw [List.foldl_cons]
      rcases List.mem_cons.mp hitem with rfl | hrest
      · exact htrans hkept (hpick item next).1
      · rcases List.mem_cons.mp hrest with rfl | hlater
        · exact htrans hkept (hpick first item).2
        · exact hall item (List.mem_cons_of_mem _ hlater)

end Vivarium
