import Vivarium.Proofs.Population.Run

/-!
# A valid configuration never faults

A fault anywhere ends a run, so a run that reaches its end has met none: no
range upside down, no chance that is no probability, no count that does not fit
its word, no position beyond the last item. What rules these out is what a
configuration is checked for and nothing else. The words of the source, what an
interpreter measures, what the feed gives and what a replay tells of are
arbitrary, and descriptors of the past may have any counts.

Two dangers need no check. A token's slot is a number below the number of
dimensions by its type, and divisors are constants.
-/

namespace Vivarium

open Number Vivarium.Random

namespace Population

variable {population : Population} {poll : Poll}

/-- What every call of a population relies on, one clause for each way to fault. -/
structure Faultless (population : Population) : Prop where
  answers : ∀ call, ∃ next, population.call call = .ok next
  clamps : ∀ d : Descriptor, population.config.bounds.orderedFor d.kind = true
  ranges : ∀ span ∈ [population.config.bounds.layers, population.config.bounds.width,
    population.config.bounds.kernel], span.low ≤ span.high
  changes : ∀ kind, 0 < Draw.changeKinds kind
  chances : ∀ p ∈ [population.config.mutation.bias, population.config.mutation.structural,
    Draw.evenChance], inUnit p = true
  widths : (Draw.width population.config.bounds.width).Yields fun n =>
    population.config.bounds.width.low ≤ n ∧ n ≤ population.config.bounds.width.high
  kernels : (Draw.kernel population.config.bounds.kernel).Yields fun n =>
    population.config.bounds.kernel.low ≤ n ∧ n ≤ population.config.bounds.kernel.high
  parents : ∀ poll stages, population.stages poll = .ok stages →
    ∀ position ∈ parentPositions population.config.selection stages.established.cells 0,
      position < stages.survivors.length
  slots : ∀ token, ((Context.placeOf token).1 : Nat) < dimensions

theorem lt_of_itemAt_eq_ok {items : List α} {position : Nat} {item : α}
    (h : itemAt items position = .ok item) : position < items.length := by
  by_contra hbeyond
  rw [itemAt, List.getElem?_eq_none (Nat.le_of_not_lt hbeyond)] at h
  cases h

theorem Account.position_lt {founders children : List Cell} {middle : Source} {stages : Stages}
    (account : population.Account poll founders children middle stages) :
    ∀ position ∈ parentPositions population.config.selection stages.established.cells 0,
      position < stages.survivors.length := by
  have hcells : stages.established.cells = population.reviewed poll := by
    rw [account.established, Evaluation.cells_of, reviewed]
  have hread := mapM_parentPositions population.config.selection [] (population.reviewed poll)
  rw [hcells, account.survivors]
  intro position hposition
  obtain ⟨parent, hparent⟩ := exists_of_mapM_eq_ok hread position hposition
  exact lt_of_itemAt_eq_ok hparent

theorem Sound.faultless (sound : population.Sound) : population.Faultless where
  answers := by
    intro call
    obtain ⟨next, steps⟩ := exists_steps sound call
    exact ⟨next, steps.answer⟩
  clamps d := Bounds.orderedFor_of_proper sound.valid.bounds.proper d.kind
  ranges := by
    have hbounds := sound.valid.bounds
    simp [hbounds.layers.ordered, hbounds.width.ordered, hbounds.kernel.ordered]
  changes kind := by cases kind <;> decide
  chances := by
    simp [sound.valid.bias_unit, sound.valid.structural_unit, Draw.inUnit_evenChance]
  widths := (Draw.yields_width sound.valid.bounds.width.ordered).mono fun _ hn =>
    Span.holds_iff.mp hn.1
  kernels := (Draw.yields_kernel sound.valid.bounds.kernel.ordered).mono fun _ hn =>
    Span.holds_iff.mp hn.1
  parents := by
    intro poll stages hstages
    obtain ⟨founders, children, middle, account⟩ := account_of_stages hstages
    exact account.position_lt
  slots token := (Context.placeOf token).1.isLt

theorem run_never_faults (config : FieldConfig) (interpret : Interpreter) (source : Source)
    (accepted : config.check = .ok ()) (calls : List Call) :
    ∃ population, (fresh config interpret source).run calls = .ok population ∧
      population.config = config ∧ population.Faultless := by
  have valid := FieldConfig.valid_of_check accepted
  obtain ⟨population, traced⟩ := exists_traced (fresh_sound valid interpret source) rfl calls
  exact ⟨population, traced.answer, traced.config, traced.sound.faultless⟩

/-- An affect that is no number, measurements that are none, and a past far out of bounds. -/
theorem run_never_faults_wild :
    FieldConfig.check {} = .ok () ∧
      ∃ population,
        (fresh {} (fun _ _ => ⟨0 / 0, 1 / 0, -1 / 0⟩) (.seeded 7)).run
          [.replay [.fitness ⟨3, 17, .convolutional 0 4294967295 0, ⟨0.9, 0.4, 0.25, 0.25, false⟩⟩],
            .tick (.ok [⟨⟨0, 0, 0⟩, "user", "why", 0 / 0⟩]), .tick (.error .closed)] =
          .ok population ∧
        population.config = {} ∧ population.Faultless := by
  have accepted : FieldConfig.check {} = .ok () := by rfl
  exact ⟨accepted, run_never_faults {} _ _ accepted _⟩

end Population

end Vivarium
