import Mathlib.Tactic

/-!
# Answers that depend on other answers

A computation that may fail is taken apart from its end: where the whole has an
answer, so has its first part, and the rest has that answer from there. A list
of questions is answered where each of them is, and one that grows at its end is answered from
where it was before.
-/

namespace Vivarium

theorem bind_eq_ok {ε α β : Type} {first : Except ε α} {next : α → Except ε β} {answer : β} :
    (first >>= next) = .ok answer ↔ ∃ value, first = .ok value ∧ next value = .ok answer := by
  cases first with
  | error e => simp [bind, Except.bind]
  | ok value => simp [bind, Except.bind]

theorem map_eq_ok {ε α β : Type} {first : Except ε α} {f : α → β} {answer : β} :
    first.map f = .ok answer ↔ ∃ value, first = .ok value ∧ f value = answer := by
  cases first with
  | error e => simp [Except.map]
  | ok value => simp [Except.map]

theorem exists_bind_eq_ok {ε α β : Type} {first : Except ε α} {next : α → Except ε β}
    (hfirst : ∃ value, first = .ok value)
    (hnext : ∀ value, first = .ok value → ∃ answer, next value = .ok answer) :
    ∃ answer, (first >>= next) = .ok answer := by
  obtain ⟨value, hvalue⟩ := hfirst
  obtain ⟨answer, hanswer⟩ := hnext value hvalue
  exact ⟨answer, bind_eq_ok.mpr ⟨value, hvalue, hanswer⟩⟩

theorem mapM_eq_pure {m : Type → Type} [Monad m] [LawfulMonad m] {α β : Type} {f : α → m β}
    {g : α → β} {items : List α} (h : ∀ item ∈ items, f item = pure (g item)) :
    items.mapM f = pure (items.map g) := by
  induction items with
  | nil => rfl
  | cons item items ih =>
      have hrest := ih fun other hother => h other (List.mem_cons_of_mem _ hother)
      rw [List.mapM_cons, h item List.mem_cons_self, hrest, pure_bind, pure_bind, List.map_cons]

theorem mapM_eq_ok {ε α β : Type} {f : α → Except ε β} {g : α → β} {items : List α}
    (h : ∀ item ∈ items, f item = .ok (g item)) : items.mapM f = .ok (items.map g) :=
  mapM_eq_pure h

theorem exists_of_mapM_eq_ok {ε α β : Type} {f : α → Except ε β} {items : List α}
    {answers : List β} (h : items.mapM f = .ok answers) :
    ∀ item ∈ items, ∃ answer, f item = .ok answer := by
  induction items generalizing answers with
  | nil => simp
  | cons first rest ih =>
      rw [List.mapM_cons] at h
      obtain ⟨answer, hfirst, h⟩ := bind_eq_ok.mp h
      obtain ⟨others, hrest, -⟩ := bind_eq_ok.mp h
      intro item hitem
      rcases List.mem_cons.mp hitem with rfl | hmem
      · exact ⟨answer, hfirst⟩
      · exact ih hrest item hmem

theorem foldlM_concat {ε α β : Type} {f : β → α → Except ε β} {start middle final : β}
    {items : List α} {last : α} (h : items.foldlM f start = .ok middle)
    (hlast : f middle last = .ok final) : (items ++ [last]).foldlM f start = .ok final := by
  rw [List.foldlM_append, h]
  show (f middle last >>= pure) = _
  rw [bind_pure]
  exact hlast

end Vivarium
