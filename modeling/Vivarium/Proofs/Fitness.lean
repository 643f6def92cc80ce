import Vivarium.Fitness
import Vivarium.Proofs.Config.Validity
import Vivarium.Proofs.Context.Acceptance
import Vivarium.Proofs.Number.Arithmetic

/-!
# Fitness is a number of the unit interval

Nothing is known of what an interpreter returns, and little of a configuration
that was not checked. That fitness is a number of the unit interval anyway is no
matter of arithmetic: what is not finite is not scored, and what is scored is
brought into range at the end.

That a checked configuration scores everything that is finite is one. The three
measures cannot help being in the unit interval, since the steps on the way may
overflow but never lead to something that is not a number. The check asks for
weights that sum to one, up to a rounding error, and a sum of numbers that are
not negative is at least each of them, rounded or not. So no weight is more than
two, no term is more than its weight, and the terms are too small to overflow
when they are added.
-/

namespace Vivarium

open Number

/-! ## Weights -/

/-- Whether a weight is at least zero and at most two. -/
structure Light (weight : Float32) : Prop where
  finite : weight.isFinite = true
  nonneg : 0 ≤ weight
  small : weight ≤ 2

theorem checkWeight_eq_ok {weight : Float32} :
    checkWeight weight = .ok () ↔ weight.isFinite = true ∧ 0 ≤ weight := by
  rw [checkWeight, Check.demand_eq_ok, Bool.and_eq_true, decide_eq_true_eq]

theorem le_two_of_tolerated {x : Float32} (hx : x.isNaN = false)
    (tolerated : ¬ weightTolerance < (x - 1).abs) : x ≤ 2 := by
  refine single_le_of_not_lt (isNaN_of_isFinite isFinite_two) hx fun hlarge => ?_
  obtain ⟨htwo, -, hheight⟩ := single_lt_iff.mp hlarge
  have hone := one_le_sub_one (single_le_iff.mpr ⟨htwo, hx, hheight.le⟩)
  have habs := single_le_trans hone (le_abs (single_le_iff.mp hone).2.1)
  have hsmall : weightTolerance < 1 := by rfl
  rw [single_lt_iff] at tolerated hsmall
  rw [single_le_iff] at habs
  exact tolerated ⟨hsmall.1, habs.2.1, hsmall.2.2.trans_le habs.2.2⟩

theorem Weights.light_of_check {weights : Weights} (h : weights.check = .ok ()) :
    Light weights.resonance ∧ Light weights.entropy ∧ Light weights.surprise := by
  simp only [Weights.check, Check.then_eq_ok, checkWeight_eq_ok, Check.demand_eq_ok,
    Bool.not_eq_true', decide_eq_false_iff_not] at h
  obtain ⟨⟨hr, hr0⟩, ⟨he, he0⟩, ⟨hs, hs0⟩, htolerated⟩ := h
  obtain ⟨hresonance, hentropy⟩ := le_add hr0 he he0
  obtain ⟨hpair, hsurprise⟩ := le_add (single_le_trans hr0 hresonance) hs hs0
  have hsum : weights.sum ≤ 2 :=
    le_two_of_tolerated (single_le_iff.mp hsurprise).2.1 htolerated
  have hpair' := single_le_trans hpair hsum
  exact ⟨⟨hr, hr0, single_le_trans hresonance hpair'⟩, ⟨he, he0, single_le_trans hentropy hpair'⟩,
    ⟨hs, hs0, single_le_trans hsurprise hsum⟩⟩

/-! ## Terms -/

theorem clamp_unit {x : Float32} (hx : x.isNaN = false) : 0 ≤ clamp 0 1 x ∧ clamp 0 1 x ≤ 1 :=
  (clamped_clamp (by rfl) hx).between

theorem Light.term {weight x : Float32} (light : Light weight) (hx : x.isNaN = false) :
    0 ≤ weight * clamp 0 1 x ∧ weight * clamp 0 1 x ≤ 2 := by
  obtain ⟨hlow, hhigh⟩ := mul_between light.finite light.nonneg (clamp_unit hx)
  exact ⟨hlow, single_le_trans hhigh light.small⟩

theorem isNaN_closeness {x target : Float32} (hx : x.isFinite = true)
    (htarget : target.isFinite = true) : (1 - (x - target).abs).isNaN = false :=
  isNaN_sub isFinite_one (isNaN_abs (sub_rounds hx htarget).number)

theorem isNaN_calmness {x : Float32} (hx : x.isFinite = true) :
    (1 / (1 + larger x 0)).isNaN = false := by
  refine isNaN_div isFinite_one ?_ (add_rounds isFinite_one (isFinite_larger hx isFinite_zero)).number
  rw [value_one]
  exact one_ne_zero

theorem isFinite_total {x y z : Float32} (hx : 0 ≤ x ∧ x ≤ 2) (hy : 0 ≤ y ∧ y ≤ 2)
    (hz : 0 ≤ z ∧ z ≤ 2) : (x + y + z).isFinite = true := by
  have hfour : value 4 = 4 := by
    have hparts : value 4 = worth (-21) (2 ^ 23) := by rfl
    norm_num [hparts, worth]
  have hsix : value 6 = 6 := by
    have hparts : value 6 = worth (-21) (3 * 2 ^ 22) := by rfl
    norm_num [hparts, worth]
  have hpair : 0 ≤ x + y ∧ x + y ≤ 4 := by
    refine add_between isFinite_two isFinite_two (by rfl) ?_ hx hy
    rw [value_two, hfour]
    norm_num
  have htotal : 0 ≤ x + y + z ∧ x + y + z ≤ 6 := by
    refine add_between (by rfl) isFinite_two (by rfl) ?_ hpair hz
    rw [value_two, hfour, hsix]
    norm_num
  exact isFinite_of_le_of_le isFinite_zero (by rfl) htotal.1 htotal.2

/-! ## Scores -/

/-- Whether a component is not a finite number. -/
def Components.Broken (c : Components) : Prop :=
  c.resonance.isFinite = false ∨ c.entropy.isFinite = false ∨ c.surprise.isFinite = false

theorem Components.finite_eq_false_iff {c : Components} : c.finite = false ↔ c.Broken := by
  simp only [finite, Broken, Bool.and_eq_false_iff, or_assoc]

/-- Whether the terms of a score are finite and not negative. -/
structure Score.Weighed (score : Score) : Prop where
  resonance : score.resonanceTerm.isFinite = true ∧ 0 ≤ score.resonanceTerm
  entropy : score.entropyTerm.isFinite = true ∧ 0 ≤ score.entropyTerm
  surprise : score.surpriseTerm.isFinite = true ∧ 0 ≤ score.surpriseTerm

namespace FitnessConfig

variable (config : FitnessConfig) (c : Components)

theorem score_between : 0 ≤ (config.score c).fitness ∧ (config.score c).fitness ≤ 1 := by
  unfold score
  dsimp only
  split
  · next h =>
      rw [Bool.and_eq_true] at h
      exact clamp_unit (isNaN_of_isFinite h.2)
  · exact ⟨by rfl, by rfl⟩

theorem score_of_broken {c : Components} (broken : c.Broken) : config.score c = .faulty := by
  rw [score, Components.finite_eq_false_iff.mpr broken, Bool.false_and]
  rfl

theorem score_of_finite {config : FitnessConfig} {c : Components}
    (accepted : config.check = .ok ()) (finite : c.finite = true) :
    (config.score c).fault = false ∧ (config.score c).Weighed := by
  rw [FitnessConfig.check, Check.then_eq_ok, Check.unit_eq_ok, inUnit, Bool.and_eq_true,
    decide_eq_true_eq, decide_eq_true_eq] at accepted
  obtain ⟨hweights, htarget⟩ := accepted
  have htarget' := isFinite_of_le_of_le isFinite_zero isFinite_one htarget.1 htarget.2
  obtain ⟨hresonance, hentropy, hsurprise⟩ := Weights.light_of_check hweights
  have hparts := finite
  rw [Components.finite, Bool.and_eq_true, Bool.and_eq_true] at hparts
  obtain ⟨⟨hr, he⟩, hs⟩ := hparts
  have hrterm := hresonance.term (isNaN_of_isFinite hr)
  have heterm := hentropy.term (isNaN_closeness he htarget')
  have hsterm := hsurprise.term (isNaN_calmness hs)
  have htotal := isFinite_total hrterm heterm hsterm
  unfold score
  dsimp only
  rw [finite, htotal]
  exact ⟨rfl, ⟨isFinite_of_le_of_le isFinite_zero isFinite_two hrterm.1 hrterm.2, hrterm.1⟩,
    ⟨isFinite_of_le_of_le isFinite_zero isFinite_two heterm.1 heterm.2, heterm.1⟩,
    ⟨isFinite_of_le_of_le isFinite_zero isFinite_two hsterm.1 hsterm.2, hsterm.1⟩⟩

theorem evaluate_in_unit (config : FitnessConfig) (interpret : Interpreter) (context : Context)
    (d : Descriptor) :
    ((config.evaluate interpret context d).fitness.isNaN = false ∧
      0 ≤ (config.evaluate interpret context d).fitness ∧
      (config.evaluate interpret context d).fitness ≤ 1) ∧
    ((interpret d context).Broken → config.evaluate interpret context d = .faulty) ∧
    ∀ field : FieldConfig, field.check = .ok () → field.fitness = config →
      ((config.evaluate interpret context d).fault = true ↔ (interpret d context).Broken) ∧
      (¬ (interpret d context).Broken → (config.evaluate interpret context d).Weighed) := by
  have hunit := score_between config (interpret d context)
  refine ⟨⟨(single_le_iff.mp hunit.1).2.1, hunit⟩, score_of_broken config,
    fun field hfield hconfig => ?_⟩
  have accepted : config.check = .ok () := by
    simp only [FieldConfig.check, Check.then_eq_ok] at hfield
    rw [← hconfig]
    exact hfield.2.2.1
  have hsound : ¬ (interpret d context).Broken →
      (config.evaluate interpret context d).fault = false ∧
        (config.evaluate interpret context d).Weighed := by
    intro hwhole
    rw [← Components.finite_eq_false_iff, Bool.not_eq_false] at hwhole
    exact score_of_finite accepted hwhole
  refine ⟨⟨fun hfault => ?_, fun hbroken => ?_⟩, fun hwhole => (hsound hwhole).2⟩
  · by_contra hwhole
    rw [(hsound hwhole).1] at hfault
    exact Bool.false_ne_true hfault
  · rw [evaluate, score_of_broken config hbroken]
    rfl

/-- Components that are close to overflowing on the way are scored, and others are not. -/
theorem evaluate_in_unit_extreme :
    FieldConfig.check {} = .ok () ∧
    (∀ context d, (FitnessConfig.evaluate {} (fun _ _ => ⟨3, -3e38, 3.4e38⟩) context d).fault =
      false ∧ (FitnessConfig.evaluate {} (fun _ _ => ⟨3, -3e38, 3.4e38⟩) context d).Weighed) ∧
    ∀ context d, FitnessConfig.evaluate {} (fun _ _ => ⟨0.5, 0 / 0, 0⟩) context d = .faulty := by
  have accepted : FieldConfig.check {} = .ok () := by rfl
  refine ⟨accepted, fun context d => ?_, fun context d => ?_⟩
  · have hwhole : ¬ Components.Broken ⟨3, -3e38, 3.4e38⟩ := by
      rw [← Components.finite_eq_false_iff]
      decide +kernel
    obtain ⟨-, -, haccepted⟩ := evaluate_in_unit {} (fun _ _ => ⟨3, -3e38, 3.4e38⟩) context d
    obtain ⟨hfault, hweighed⟩ := haccepted {} accepted rfl
    exact ⟨Bool.eq_false_iff.mpr (mt hfault.mp hwhole), hweighed hwhole⟩
  · have hbroken : Components.Broken ⟨0.5, 0 / 0, 0⟩ := by
      rw [← Components.finite_eq_false_iff]
      rfl
    exact (evaluate_in_unit {} (fun _ _ => ⟨0.5, 0 / 0, 0⟩) context d).2.1 hbroken

end FitnessConfig

end Vivarium
