import Vivarium.Config.Validity
import Vivarium.Proofs.Answers

/-!
# What a valid configuration promises

A configuration that passes its check has been asked one question after the
other, and every later part of the library leans on some of the answers. They
are read off the check once, here, and given names; nothing else looks into the
check again.
-/

namespace Vivarium

namespace Check

theorem demand_eq_ok {condition : Bool} {error : ConfigError} :
    demand condition error = .ok () ↔ condition = true := by
  cases condition <;> simp [demand]

theorem then_eq_ok {first : Check} {next : Unit → Check} :
    (first >>= next) = .ok () ↔ first = .ok () ∧ next () = .ok () := by
  rw [bind_eq_ok]
  exact ⟨fun ⟨(), h⟩ => h, fun h => ⟨(), h⟩⟩

theorem unit_eq_ok {name : String} {value : Float32} :
    Check.unit name value = .ok () ↔ Number.inUnit value = true := by
  rw [Check.unit, demand_eq_ok]

end Check

/-- Whether a range is the right way up and holds positive counts only. -/
structure Span.Sound (span : Span) : Prop where
  positive : span.low ≠ 0
  ordered : span.low ≤ span.high

/-- Whether every range is sound and there is something to choose from. -/
structure Bounds.Sound (bounds : Bounds) : Prop where
  layers : bounds.layers.Sound
  width : bounds.width.Sound
  kernel : bounds.kernel.Sound
  heads_ne_nil : bounds.heads ≠ []
  heads_positive : 0 ∉ bounds.heads
  kinds_ne_nil : bounds.kinds ≠ []

/-- What the parts of the field that hold cells rely on. -/
structure FieldConfig.Valid (config : FieldConfig) : Prop where
  initial_positive : 0 < config.population.initialSize
  initial_le_max : config.population.initialSize ≤ config.population.maxSize
  batch_positive : 0 < config.population.batchSize
  death_lt_birth : config.selection.death < config.selection.birth
  bias_unit : Number.inUnit config.mutation.bias = true
  structural_unit : Number.inUnit config.mutation.structural = true
  bounds : config.bounds.Sound
  capacity_positive : 0 < config.lineage.capacity

theorem Span.sound_of_check {span : Span} {name : String} (h : span.check name = .ok ()) :
    span.Sound := by
  simp only [Span.check, Check.demand_eq_ok, Span.ordered, Bool.and_eq_true, bne_iff_ne,
    decide_eq_true_eq] at h
  exact ⟨h.1, h.2⟩

theorem Bounds.sound_of_check {bounds : Bounds} (h : bounds.check = .ok ()) : bounds.Sound := by
  simp only [Bounds.check, Check.then_eq_ok, Check.demand_eq_ok, Bool.and_eq_true,
    Bool.not_eq_true', List.isEmpty_eq_false_iff, List.contains_eq_mem, decide_eq_false_iff_not]
    at h
  obtain ⟨hlayers, hwidth, hkernel, ⟨hheads, hzero⟩, hkinds⟩ := h
  exact {
    layers := Span.sound_of_check hlayers
    width := Span.sound_of_check hwidth
    kernel := Span.sound_of_check hkernel
    heads_ne_nil := hheads
    heads_positive := hzero
    kinds_ne_nil := hkinds }

theorem FieldConfig.valid_of_check {config : FieldConfig} (h : config.check = .ok ()) :
    config.Valid := by
  simp only [FieldConfig.check, Check.then_eq_ok] at h
  obtain ⟨hpopulation, hselection, -, hmutation, hbounds, hlineage, -, -⟩ := h
  simp only [PopulationConfig.check, Check.then_eq_ok, Check.demand_eq_ok, bne_iff_ne,
    decide_eq_true_eq] at hpopulation
  simp only [SelectionConfig.check, Check.demand_eq_ok, Bool.and_eq_true, decide_eq_true_eq]
    at hselection
  simp only [MutationConfig.check, Check.then_eq_ok, Check.unit_eq_ok] at hmutation
  simp only [LineageConfig.check, Check.then_eq_ok, Check.demand_eq_ok, bne_iff_ne] at hlineage
  obtain ⟨hinitial, -, hle, hbatch⟩ := hpopulation
  exact {
    initial_positive := Nat.pos_of_ne_zero hinitial
    initial_le_max := hle
    batch_positive := Nat.pos_of_ne_zero hbatch
    death_lt_birth := hselection.2
    bias_unit := hmutation.1
    structural_unit := hmutation.2
    bounds := Bounds.sound_of_check hbounds
    capacity_positive := Nat.pos_of_ne_zero hlineage.1 }

end Vivarium
