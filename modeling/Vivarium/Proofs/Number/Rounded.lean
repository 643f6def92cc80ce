import Vivarium.Proofs.Number.Comparison

/-!
# What rounding cannot pass

A sum or a product of singles is first taken exactly, as a significand with an
exponent, and then shifted to an exponent at which it has few enough digits. The
shift keeps track of what it drops: the exact value stays between the
significand and the next one, and two bits say whether anything was dropped. So
rounding goes to one of two neighbours, and to the lower one if the value is
that.

Between these neighbours there is no other result. At the least exponent that is
clear, since all results are multiples of one step. At any other exponent the
significand has all its digits, so a result with a lesser exponent is too small
to lie above the lower neighbour, and one with a greater exponent is a multiple
of the same step. Therefore rounding passes no result: what is not below the
exact value is not below the rounded one, and what is not above the one is not
above the other.
-/

namespace Vivarium.Number

open Float.Model UnpackedFloat

/-! ## What exponents and significands are worth -/

/-- The number that is written with an exponent and a significand. -/
def worth (e m : Int) : ℚ :=
  m * 2 ^ e

section Worth

variable {e f m n : Int}

theorem worth_add (e m n : Int) : worth e (m + n) = worth e m + worth e n := by
  unfold worth
  push_cast
  ring

theorem worth_neg (e m : Int) : worth e (-m) = -worth e m := by
  unfold worth
  push_cast
  ring

theorem worth_mul (e f m n : Int) : worth (e + f) (m * n) = worth e m * worth f n := by
  unfold worth
  rw [zpow_add₀ two_ne_zero]
  push_cast
  ring

theorem worth_shift (e m : Int) (k : Nat) : worth (e + k) m = worth e (m * 2 ^ k) := by
  unfold worth
  rw [zpow_add₀ two_ne_zero, zpow_natCast]
  push_cast
  ring

theorem worth_zero (e : Int) : worth e 0 = 0 := by
  unfold worth
  rw [Int.cast_zero, zero_mul]

theorem worth_le_worth : worth e m ≤ worth e n ↔ m ≤ n := by
  unfold worth
  rw [mul_le_mul_iff_of_pos_right (zpow_pos two_pos e), Int.cast_le]

theorem worth_lt_worth : worth e m < worth e n ↔ m < n := by
  rw [← not_le, worth_le_worth, not_le]

theorem worth_nonneg (e : Int) (m : Nat) : 0 ≤ worth e m := by
  rw [← worth_zero e, worth_le_worth]
  exact Int.natCast_nonneg m

theorem worth_le_of_le (h : e ≤ f) : worth e 1 ≤ worth f 1 := by
  obtain ⟨k, rfl⟩ := Int.le.dest h
  rw [worth_shift, worth_le_worth, one_mul]
  exact_mod_cast Nat.one_le_two_pow

end Worth

/-- Whether exponent and significand are such as rounding comes to. They may be too large for a
single. -/
structure Normal (e : Int) (m : Nat) : Prop where
  least : -149 ≤ e
  small : m < 2 ^ 24
  full : 2 ^ 23 ≤ m ∨ e = -149

theorem Canonical.normal {e : Int} {m : Nat} (h : Canonical e m) : Normal e m :=
  ⟨h.least, h.small, h.full⟩

theorem normal_zero : Normal (-149) 0 where
  least := le_rfl
  small := by norm_num
  full := .inr rfl

section Normal

variable {e f : Int} {m n k : Nat}

theorem Normal.elevation_nonneg (h : Normal e m) : 0 ≤ elevation e m := by
  have hleast := h.least
  unfold elevation
  omega

/-- A significand with all its digits is worth more than any with a lesser exponent. -/
theorem worth_lt_of_lt (h : e < f) (small : m < 2 ^ 24) (full : 2 ^ 23 ≤ k) :
    worth e m < worth f k := by
  obtain ⟨j, hj⟩ := Int.le.dest (Int.add_one_le_of_lt h)
  have hstep : f = e + (j + 1 : Nat) := by omega
  have hdigits : 2 ^ 23 * 2 ^ 1 ≤ k * 2 ^ (j + 1) :=
    Nat.mul_le_mul full (Nat.pow_le_pow_right two_pos (Nat.le_add_left 1 j))
  have hlt : m < k * 2 ^ (j + 1) := by omega
  rw [hstep, worth_shift, worth_lt_worth]
  exact_mod_cast hlt

theorem Normal.lt_of_lt (hm : Normal e m) (hk : Normal f k) (h : e < f) :
    worth e m < worth f k ∧ elevation e m < elevation f k := by
  have hleast := hm.least
  have hfull : 2 ^ 23 ≤ k := hk.full.resolve_right (by omega)
  have hsmall := hm.small
  refine ⟨worth_lt_of_lt h hsmall hfull, ?_⟩
  unfold elevation
  omega

/-- The line that singles stand on is ordered as what they are worth. -/
theorem Normal.worth_le_iff (hm : Normal e m) (hk : Normal f k) :
    worth e m ≤ worth f k ↔ elevation e m ≤ elevation f k := by
  rcases lt_trichotomy e f with hlt | rfl | hgt
  · obtain ⟨hworth, helevation⟩ := hm.lt_of_lt hk hlt
    exact ⟨fun _ => helevation.le, fun _ => hworth.le⟩
  · rw [worth_le_worth]
    unfold elevation
    omega
  · obtain ⟨hworth, helevation⟩ := hk.lt_of_lt hm hgt
    exact ⟨fun h => absurd hworth h.not_gt, fun h => absurd helevation h.not_gt⟩

/-- No result lies strictly between two neighbours at an exponent that leaves no digit unused. -/
theorem Normal.next_le (hk : Normal f k) (full : 2 ^ 23 ≤ n ∨ e = -149)
    (h : worth e n < worth f k) : worth e (n + 1) ≤ worth f k := by
  rcases le_or_gt e f with hle | hlt
  · obtain ⟨j, rfl⟩ := Int.le.dest hle
    rw [worth_shift] at h ⊢
    rw [worth_lt_worth] at h
    exact worth_le_worth.mpr h
  · -- with a lesser exponent the result has too few digits to come this far
    have hleast := hk.least
    have hfull : 2 ^ 23 ≤ n := full.resolve_right (by omega)
    exact absurd h (worth_lt_of_lt hlt hk.small hfull).not_gt

end Normal

/-! ## Shifting -/

/-- Whether a significand with its two bits tells where an exact value lies. -/
structure Lies (em : ExtendedMantissa) (e : Int) (q : ℚ) : Prop where
  floor : worth e em.mantissa ≤ q
  ceiling : q < worth e (em.mantissa + 1)
  exact_iff : em.roundBit = false ∧ em.stickyBit = false ↔ q = worth e em.mantissa

theorem lies_exact (e : Int) (m : Nat) :
    Lies (.ofMantissaAndAccuracy m .exact) e (worth e m) where
  floor := le_rfl
  ceiling := worth_lt_worth.mpr (lt_add_one _)
  exact_iff := ⟨fun _ => rfl, fun _ => ⟨rfl, rfl⟩⟩

theorem Lies.shiftRightOne {em : ExtendedMantissa} {e : Int} {q : ℚ} (h : Lies em e q) :
    Lies em.shiftRightOne (e + 1) q := by
  obtain ⟨hfloor, hceiling, hexact⟩ := h
  obtain ⟨m, roundBit, stickyBit⟩ := em
  have hstep (n : Int) : worth (e + 1) n = worth e (n * 2) := worth_shift e n 1
  dsimp only at hfloor hceiling hexact
  refine ⟨?_, ?_, ?_⟩
  · refine le_trans ?_ hfloor
    rw [ExtendedMantissa.shiftRightOne, hstep, worth_le_worth]
    push_cast
    omega
  · refine lt_of_lt_of_le hceiling ?_
    rw [ExtendedMantissa.shiftRightOne, hstep, worth_le_worth]
    push_cast
    omega
  · rw [ExtendedMantissa.shiftRightOne, hstep]
    dsimp only
    rw [Bool.or_eq_false_iff, hexact]
    rcases Nat.even_or_odd' m with ⟨n, rfl | rfl⟩
    · have hhalf : ((2 * n / 2 : Nat) : Int) * 2 = (2 * n : Nat) := by omega
      rw [hhalf]
      simp
    · -- a digit is dropped, so nothing of it is left in the significand
      have hhalf : ((2 * n + 1) / 2 : Nat) * 2 < ((2 * n + 1 : Nat) : Int) := by omega
      have hlt := lt_of_lt_of_le (worth_lt_worth.mpr hhalf) hfloor
      refine ⟨fun h => absurd h.1 ?_, fun h => absurd h hlt.ne'⟩
      simp

theorem Lies.shiftRight {em : ExtendedMantissa} {e : Int} {q : ℚ} (h : Lies em e q) (k : Nat) :
    Lies (em >>> k) (e + k) q := by
  change Lies (k.repeat ExtendedMantissa.shiftRightOne em) _ _
  induction k with
  | zero =>
      rw [Nat.cast_zero, add_zero]
      exact h
  | succ k ih =>
      rw [Nat.cast_succ, ← add_assoc]
      exact ih.shiftRightOne

/-! ## Rounding -/

/-- Whether exponent and significand pass no result on the way from an exact value. -/
structure Faithful (q : ℚ) (e : Int) (m : Nat) : Prop where
  normal : Normal e m
  above : ∀ {f k}, Normal f k → q ≤ worth f k → elevation e m ≤ elevation f k
  below : ∀ {f k}, Normal f k → worth f k ≤ q → elevation f k ≤ elevation e m

theorem Normal.faithful {e : Int} {m : Nat} (h : Normal e m) : Faithful (worth e m) e m where
  normal := h
  above hk := (h.worth_le_iff hk).mp
  below hk := (hk.worth_le_iff h).mp

theorem roundedMantissa_cases (em : ExtendedMantissa) : em.roundedMantissa = em.mantissa ∨
    em.roundedMantissa = em.mantissa + 1 ∧ ¬ (em.roundBit = false ∧ em.stickyBit = false) := by
  obtain ⟨m, roundBit, stickyBit⟩ := em
  cases roundBit <;> cases stickyBit <;>
    simp only [ExtendedMantissa.roundedMantissa, ExtendedMantissa.accuracy,
      Accuracy.roundToNearestEven] <;>
    simp
  omega

theorem Lies.faithful {em : ExtendedMantissa} {e f : Int} {m : Nat} {q : ℚ} (h : Lies em e q)
    (full : 2 ^ 23 ≤ em.mantissa ∨ e = -149) (normal : Normal f m)
    (same : worth f m = worth e em.roundedMantissa) : Faithful q f m := by
  refine ⟨normal, fun {g k} hk hle => ?_, fun {g k} hk hle => ?_⟩
  · rw [← normal.worth_le_iff hk, same]
    rcases roundedMantissa_cases em with hsame | ⟨hnext, hinexact⟩
    · rw [hsame]
      exact h.floor.trans hle
    · have hlt := lt_of_le_of_ne h.floor fun heq => hinexact (h.exact_iff.mpr heq.symm)
      rw [hnext]
      exact hk.next_le full (hlt.trans_le hle)
  · rw [← hk.worth_le_iff normal, same]
    rcases roundedMantissa_cases em with hsame | ⟨hnext, -⟩
    · rw [hsame]
      by_contra hlt
      exact absurd (hk.next_le full (not_le.mp hlt)) (hle.trans_lt h.ceiling).not_ge
    · rw [hnext]
      exact (hle.trans_lt h.ceiling).le

theorem targetExponent_eq (m : Nat) (e : Int) :
    Format.binary32.targetExponent (totalExponent m e) = max (m.log2 + e - 23) (-149) := by
  have hdigits : (Format.binary32.mantissaBits : Int) = 24 := rfl
  have hleast : Format.binary32.minExponent = -149 := rfl
  rw [Format.targetExponent, totalExponent, hdigits, hleast]
  omega

/-- A decoded value without infinities: the sign, the exponent and the significand. -/
def ofParts (s : Sign) (e : Int) (m : Nat) : UnpackedFloat :=
  if h : m = 0 then .zero s else .finite s m e (Nat.pos_of_ne_zero h)

theorem shiftToTargetExponent_eq {e : Int} {m k : Nat}
    (h : (max (m.log2 + e - 23) (-149) - e).toNat = k) :
    shiftToTargetExponent .binary32 m e .exact =
      (ExtendedMantissa.ofMantissaAndAccuracy m .exact >>> k, e + k) := by
  rw [shiftToTargetExponent, targetExponent_eq, shiftToExponent, h]

/-- A significand with one digit too many is shifted by it, and nothing is dropped. -/
theorem carry {e : Int} {m : Nat} (least : -149 ≤ e) (small : m ≤ 2 ^ 24)
    (full : 2 ^ 23 ≤ m ∨ e = -149) :
    ∃ f n, Normal f n ∧ worth f n = worth e m ∧
      (shiftToTargetExponent .binary32 m e .exact).1.mantissa = n ∧
      (shiftToTargetExponent .binary32 m e .exact).2 = f := by
  rcases Nat.lt_or_eq_of_le small with hlt | rfl
  · have hlog : m.log2 < 24 := by
      rcases Nat.eq_zero_or_pos m with rfl | hpos
      · decide
      · exact (Nat.log2_lt hpos.ne').mpr hlt
    have hstay : (max (m.log2 + e - 23) (-149) - e).toNat = 0 := by omega
    rw [shiftToTargetExponent_eq hstay]
    exact ⟨e, m, ⟨least, hlt, full⟩, rfl, rfl, add_zero e⟩
  · have hlog : (2 ^ 24).log2 = 24 := Nat.log2_two_pow
    have hshift : (max ((2 ^ 24).log2 + e - 23) (-149) - e).toNat = 1 := by omega
    rw [shiftToTargetExponent_eq hshift]
    refine ⟨e + 1, 2 ^ 23, ⟨by omega, by norm_num, .inl le_rfl⟩, ?_, rfl, rfl⟩
    exact worth_shift e _ 1

theorem worth_lt_log2 (e : Int) (m : Nat) : worth e m < worth (e + (m.log2 + 1 : Nat)) 1 := by
  rw [worth_shift, worth_lt_worth, one_mul]
  exact_mod_cast Nat.lt_log2_self

theorem log2_le_worth (e : Int) {m : Nat} (pos : 0 < m) : worth (e + m.log2) 1 ≤ worth e m := by
  rw [worth_shift, worth_le_worth, one_mul]
  exact_mod_cast Nat.log2_self_le pos.ne'

/-- The shift leaves all the digits that there is room for, and no more. -/
theorem Lies.fits {em : ExtendedMantissa} {e t : Int} {m : Nat} (h : Lies em t (worth e m))
    (fine : e ≤ t) (target : t = max (m.log2 + e - 23) (-149)) :
    em.mantissa < 2 ^ 24 ∧ (2 ^ 23 ≤ em.mantissa ∨ t = -149) := by
  constructor
  · have hwidth : e + (m.log2 + 1 : Nat) ≤ t + (24 : Nat) := by omega
    have hlt := (h.floor.trans_lt (worth_lt_log2 e m)).trans_le (worth_le_of_le hwidth)
    rw [worth_shift, worth_lt_worth] at hlt
    omega
  · by_cases hleast : t = -149
    · exact .inr hleast
    · have hpos : 0 < m := by
        rcases Nat.eq_zero_or_pos m with rfl | hpos
        · have hlog : Nat.log2 0 = 0 := Nat.log2_zero
          omega
        · exact hpos
      have hwidth : e + m.log2 = t + (23 : Nat) := by omega
      have hlt := (log2_le_worth e hpos).trans_lt h.ceiling
      rw [hwidth, worth_shift, worth_lt_worth] at hlt
      omega

theorem roundWithAccuracy_faithful (s : Sign) {e : Int} {m : Nat}
    (fine : e ≤ max (m.log2 + e - 23) (-149)) :
    ∃ f n, Faithful (worth e m) f n ∧ roundWithAccuracy .binary32 s m e .exact = ofParts s f n := by
  obtain ⟨k, hk⟩ := Int.le.dest fine
  have hfirst := shiftToTargetExponent_eq (e := e) (m := m) (k := k) (by omega)
  have hlies := (lies_exact e m).shiftRight k
  generalize ExtendedMantissa.ofMantissaAndAccuracy m .exact >>> k = em at hfirst hlies
  rw [hk] at hfirst hlies
  obtain ⟨hsmall, hfull⟩ := hlies.fits fine rfl
  have hrounded : em.mantissa ≤ em.roundedMantissa ∧ em.roundedMantissa ≤ em.mantissa + 1 := by
    rcases roundedMantissa_cases em with hsame | ⟨hnext, -⟩ <;> omega
  obtain ⟨f, n, hnormal, hsame, hmantissa, hexponent⟩ :=
    carry (m := em.roundedMantissa) (le_max_right (m.log2 + e - 23) (-149)) (by omega) (by omega)
  refine ⟨f, n, hlies.faithful hfull hnormal hsame, ?_⟩
  rw [roundWithAccuracy, hfirst]
  subst hmantissa hexponent
  rfl

/-! ## Sums, differences and products -/

/-- What a decoded value is worth; an infinity is worth nothing. -/
def decodedValue : UnpackedFloat → ℚ
  | .finite s m e _ => worth e (s.apply m)
  | _ => 0

/-- Whether a decoded value is an exact one rounded. -/
inductive Rounded (q : ℚ) : UnpackedFloat → Prop where
  | positive {e : Int} {m : Nat} (nonneg : 0 ≤ q) (faithful : Faithful q e m) :
      Rounded q (ofParts .positive e m)
  | negative {e : Int} {m : Nat} (nonpos : q ≤ 0) (faithful : Faithful (-q) e m) :
      Rounded q (ofParts .negative e m)

theorem decodedValue_ofParts (s : Sign) (e : Int) (m : Nat) :
    decodedValue (ofParts s e m) = worth e (s.apply m) := by
  unfold ofParts
  split
  · next h =>
      subst h
      cases s <;> exact (worth_zero e).symm
  · rfl

theorem rounded_of_faithful (s : Sign) {e f : Int} {m n : Nat} (h : Faithful (worth e m) f n) :
    Rounded (worth e (s.apply m)) (ofParts s f n) := by
  have hnonneg := worth_nonneg e m
  cases s with
  | positive => exact .positive hnonneg h
  | negative =>
      have hvalue : worth e (Sign.negative.apply m) = -worth e m := worth_neg e m
      rw [hvalue]
      exact .negative (neg_nonpos.mpr hnonneg) (by rwa [neg_neg])

theorem rounded_ofParts (s : Sign) {e : Int} {m : Nat} (h : Normal e m) :
    Rounded (worth e (s.apply m)) (ofParts s e m) :=
  rounded_of_faithful s h.faithful

theorem rounded_zero (s : Sign) : Rounded 0 (.zero s) := by
  have h := rounded_ofParts s normal_zero
  have hvalue : worth (-149) (s.apply 0) = 0 := by
    cases s <;> exact worth_zero _
  rwa [Nat.cast_zero, hvalue] at h

/-- Two values can be brought to the lesser one of their exponents, and keep their worth. -/
theorem decreaseExponent_eq (m : Nat) (e t : Int) :
    ∃ k : Nat, decreaseExponent m e t = (m * 2 ^ k, min e t) ∧ e = min e t + k := by
  refine ⟨(e - t).toNat, ?_, by omega⟩
  have hexponent : e - (e - t).toNat = min e t := by omega
  rw [decreaseExponent, hexponent, Nat.shiftLeft_eq]

theorem worth_apply_shift (s : Sign) (e : Int) (m k : Nat) :
    worth e (s.apply (m * 2 ^ k : Nat)) = worth (e + k) (s.apply m) := by
  rw [worth_shift]
  cases s with
  | positive => simp [Sign.apply]
  | negative => simp [Sign.apply]

theorem rounded_round (s : Sign) (e : Int) {m : Nat} (pos : 0 < m) :
    Rounded (worth e (s.apply m)) (UnpackedFloat.round .binary32 s m e) := by
  obtain ⟨k, hdecrease, he⟩ := decreaseExponent_eq m e (max (m.log2 + e - 23) (-149))
  rw [UnpackedFloat.round, targetExponent_eq]
  dsimp only
  rw [hdecrease]
  have hlog : m.log2 + k ≤ (m * 2 ^ k).log2 := by
    rw [Nat.le_log2 (Nat.mul_pos pos (Nat.two_pow_pos k)).ne', Nat.pow_add]
    exact Nat.mul_le_mul_right _ (Nat.log2_self_le pos.ne')
  generalize hf : min e (max (m.log2 + e - 23) (-149)) = f at he
  obtain ⟨g, n, hfaithful, hround⟩ :=
    roundWithAccuracy_faithful s (e := f) (m := m * 2 ^ k) (by omega)
  rw [hround, he, ← worth_apply_shift]
  exact rounded_of_faithful s hfaithful

theorem rounded_normalize (e m : Int) (zeroSign : Sign) :
    Rounded (worth e m) (UnpackedFloat.normalize .binary32 m e zeroSign) := by
  rw [UnpackedFloat.normalize]
  rcases lt_trichotomy m 0 with hneg | rfl | hpos
  · rw [compare_lt_iff_lt.mpr hneg]
    have h := rounded_round .negative e (m := (-m).toNat) (by omega)
    have hvalue : Sign.negative.apply (-m).toNat = m := by
      simp only [Sign.apply]
      omega
    rwa [hvalue] at h
  · rw [compare_eq_iff_eq.mpr rfl, worth_zero]
    exact rounded_zero zeroSign
  · rw [compare_gt_iff_gt.mpr hpos]
    have h := rounded_round .positive e (m := m.toNat) (by omega)
    have hvalue : Sign.positive.apply m.toNat = m := by
      simp only [Sign.apply]
      omega
    rwa [hvalue] at h

theorem worth_decreaseExponent (s : Sign) (m : Nat) {e t : Int} (h : t ≤ e) :
    worth t (s.apply (decreaseExponent m e t).1) = worth e (s.apply m) := by
  obtain ⟨k, hdecrease, he⟩ := decreaseExponent_eq m e t
  rw [min_eq_right h] at hdecrease he
  rw [hdecrease, worth_apply_shift, ← he]

theorem worth_apply_zero (s : Sign) (e : Int) : worth e (s.apply (0 : Nat)) = 0 := by
  cases s <;> exact worth_zero e

theorem apply_neg (s : Sign) (n : Int) : (-s).apply n = -s.apply n := by
  cases s with
  | positive => rfl
  | negative => exact (neg_neg n).symm

theorem ofParts_zero (s : Sign) (e : Int) : ofParts s e 0 = .zero s :=
  dif_pos rfl

theorem ofParts_of_pos (s : Sign) (e : Int) {m : Nat} (pos : 0 < m) :
    ofParts s e m = .finite s m e pos :=
  dif_neg pos.ne'

section Operations

variable {e f : Int} {m n : Nat}

theorem rounded_add (s t : Sign) (hm : Normal e m) (hn : Normal f n) :
    Rounded (worth e (s.apply m) + worth f (t.apply n))
      (add .binary32 (ofParts s e m) (ofParts t f n)) := by
  rcases Nat.eq_zero_or_pos m with rfl | hmpos
  · rw [worth_apply_zero, zero_add, ofParts_zero]
    rcases Nat.eq_zero_or_pos n with rfl | hnpos
    · rw [worth_apply_zero, ofParts_zero, UnpackedFloat.add]
      split <;> exact rounded_zero _
    · have h := rounded_ofParts t hn
      rwa [ofParts_of_pos t f hnpos] at h ⊢
  · rcases Nat.eq_zero_or_pos n with rfl | hnpos
    · rw [worth_apply_zero, add_zero, ofParts_zero]
      have h := rounded_ofParts s hm
      rwa [ofParts_of_pos s e hmpos] at h ⊢
    · rw [ofParts_of_pos s e hmpos, ofParts_of_pos t f hnpos,
        ← worth_decreaseExponent s m (min_le_left e f),
        ← worth_decreaseExponent t n (min_le_right e f), ← worth_add]
      exact rounded_normalize _ _ _

theorem rounded_sub (s t : Sign) (hm : Normal e m) (hn : Normal f n) :
    Rounded (worth e (s.apply m) - worth f (t.apply n))
      (sub .binary32 (ofParts s e m) (ofParts t f n)) := by
  rcases Nat.eq_zero_or_pos m with rfl | hmpos
  · rw [worth_apply_zero, zero_sub, ofParts_zero]
    rcases Nat.eq_zero_or_pos n with rfl | hnpos
    · rw [worth_apply_zero, neg_zero, ofParts_zero, UnpackedFloat.sub]
      split <;> exact rounded_zero _
    · have h := rounded_ofParts (-t) hn
      rw [ofParts_of_pos (-t) f hnpos, apply_neg, worth_neg] at h
      rwa [ofParts_of_pos t f hnpos]
  · rcases Nat.eq_zero_or_pos n with rfl | hnpos
    · rw [worth_apply_zero, sub_zero, ofParts_zero]
      have h := rounded_ofParts s hm
      rwa [ofParts_of_pos s e hmpos] at h ⊢
    · rw [ofParts_of_pos s e hmpos, ofParts_of_pos t f hnpos,
        ← worth_decreaseExponent s m (min_le_left e f),
        ← worth_decreaseExponent t n (min_le_right e f), sub_eq_add_neg, ← worth_neg,
        ← worth_add, ← sub_eq_add_neg]
      exact rounded_normalize _ _ _

theorem apply_mul (s t : Sign) (m n : Nat) :
    s.apply m * t.apply n = (s * t).apply (m * n : Nat) := by
  rw [Nat.cast_mul]
  cases s <;> cases t
  · exact neg_mul_neg _ _
  · exact neg_mul _ _
  · exact mul_neg _ _
  · rfl

theorem rounded_mul (s t : Sign) (hm : Normal e m) (hn : Normal f n) :
    Rounded (worth e (s.apply m) * worth f (t.apply n))
      (mul .binary32 (ofParts s e m) (ofParts t f n)) := by
  rcases Nat.eq_zero_or_pos m with rfl | hmpos
  · rw [worth_apply_zero, zero_mul, ofParts_zero]
    rcases Nat.eq_zero_or_pos n with rfl | hnpos
    · rw [ofParts_zero]
      exact rounded_zero _
    · rw [ofParts_of_pos t f hnpos]
      exact rounded_zero _
  · rcases Nat.eq_zero_or_pos n with rfl | hnpos
    · rw [worth_apply_zero, mul_zero, ofParts_of_pos s e hmpos, ofParts_zero]
      exact rounded_zero _
    · -- a full significand gives the product enough digits, and without one it is small
      have hfine : e + f ≤ max ((m * n).log2 + (e + f) - 23) (-149) := by
        have hlog : 2 ^ 23 ≤ m * n → 23 ≤ (m * n).log2 :=
          (Nat.le_log2 (Nat.mul_pos hmpos hnpos).ne').mpr
        have hleft : m ≤ m * n := Nat.le_mul_of_pos_right m hnpos
        have hright : n ≤ m * n := Nat.le_mul_of_pos_left n hmpos
        have hfull := hm.full
        have hfull' := hn.full
        omega
      obtain ⟨g, k, hfaithful, hround⟩ := roundWithAccuracy_faithful (s * t) hfine
      rw [ofParts_of_pos s e hmpos, ofParts_of_pos t f hnpos, ← worth_mul, apply_mul]
      have h := rounded_of_faithful (s * t) hfaithful
      rwa [← hround] at h

end Operations

end Vivarium.Number
