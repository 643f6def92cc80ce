import Vivarium.Proofs.Number.Rounded

/-!
# Sums, differences and products of singles

A decoded result is packed into a word, and what is too large for a single
becomes an infinity there. An infinity stands above every finite single, so a
result that is packed still passes none of them: for finite operands, the
rounded result is at least any finite single that the exact one is at least, and
at most any that the exact one is at most. Bounds on exact results that are
singles themselves are bounds on rounded ones.

The operations also meet infinities. All that is said about these is where they
lead to something that is not a number.
-/

namespace Vivarium.Number

open Float.Model UnpackedFloat

/-- The single that a decoded value is packed into. -/
def packed (u : UnpackedFloat) : Float32 :=
  .ofModel (.pack u)

/-! ## Packing -/

theorem height_of_packComponents {x : Float32} {s : Sign} {exponent : BitVec 8}
    {fraction : BitVec 23}
    (h : x.toModel.toBits.toBitVec = packComponents .binary32 s exponent fraction) :
    height x = s.apply (exponent.toNat * 2 ^ 23 + fraction.toNat) := by
  have hexponent := toNat_unpackExponent x.toModel.toBits.toBitVec
  have hfraction := toNat_unpackMantissa x.toModel.toBits.toBitVec
  have hsign := toNat_unpackSign x.toModel.toBits.toBitVec
  have hbound := x.toModel.toBits.toBitVec.isLt
  rw [height_eq_of_word]
  generalize x.toModel.toBits.toBitVec = word at *
  subst h
  simp only [unpackExponent_packComponents, unpackMantissa_packComponents,
    unpackSign_packComponents] at hexponent hfraction hsign
  generalize (packComponents .binary32 s exponent fraction).toNat = word at *
  cases s with
  | positive =>
      have hpos : word / 2 ^ 31 = 0 := hsign.symm
      rw [if_pos (by omega)]
      simp only [Sign.apply]
      omega
  | negative =>
      have hneg : word / 2 ^ 31 = 1 := hsign.symm
      rw [if_neg (by omega)]
      simp only [Sign.apply]
      omega

theorem height_packed_infinity (s : Sign) :
    height (packed (.infinity s)) = s.apply (255 * 2 ^ 23) := by
  have hword : (packed (.infinity s)).toModel.toBits.toBitVec =
      packComponents .binary32 s (-1#8) 0#23 := rfl
  rw [height_of_packComponents hword]
  rfl

theorem height_packed_zero (s : Sign) : height (packed (.zero s)) = 0 := by
  have hword : (packed (.zero s)).toModel.toBits.toBitVec =
      packComponents .binary32 s 0#8 0#23 := rfl
  rw [height_of_packComponents hword]
  cases s <;> simp [Sign.apply]

theorem height_packed (s : Sign) {e : Int} {m : Nat} (h : Normal e m) :
    height (packed (ofParts s e m)) = s.apply (min (elevation e m) (255 * 2 ^ 23)) := by
  obtain ⟨hleast, hsmall, hfull⟩ := h
  rcases Nat.eq_zero_or_pos m with rfl | hpos
  · have hzero : min (elevation e 0) (255 * 2 ^ 23) = 0 := by
      unfold elevation
      omega
    rw [ofParts_zero, height_packed_zero, hzero]
    cases s <;> rfl
  · have hword : (packed (.finite s m e hpos)).toModel.toBits.toBitVec =
        UnpackedFloat.pack .binary32 (.finite s m e hpos) := rfl
    have hbias : (Format.binary32.exponentBias + Format.binary32.mantissaBitsWithoutImplicit : Int) =
        150 := rfl
    have hdigits : Format.binary32.mantissaBits = 24 := rfl
    rw [UnpackedFloat.pack] at hword
    dsimp only at hword
    rw [add_assoc, hbias, hdigits] at hword
    rw [ofParts_of_pos s e hpos]
    -- Past the largest exponent stands infinity, and below the smallest the exponent field is zero.
    split at hword
    · next hlarge =>
        have hinfinity : packedInfinity .binary32 s = packComponents .binary32 s (-1#8) 0#23 := rfl
        have htop : min (elevation e m) (255 * 2 ^ 23) = 255 * 2 ^ 23 := by
          unfold elevation
          omega
        rw [height_of_packComponents (hword.trans hinfinity), htop]
        rfl
    · next hroom =>
        have hfits : min (elevation e m) (255 * 2 ^ 23) = elevation e m := by
          unfold elevation
          omega
        rw [hfits]
        split at hword
        · next hlog =>
            have hfull : 2 ^ 23 ≤ m := by
              rw [← Nat.le_log2 hpos.ne']
              omega
            rw [height_of_packComponents hword, BitVec.toNat_ofNat, BitVec.toNat_ofNat]
            congr 1
            unfold elevation
            omega
        · next hlog =>
            have hlow : m < 2 ^ 23 := by
              have hlog' : m.log2 < 24 := (Nat.log2_lt hpos.ne').mpr hsmall
              rw [← Nat.log2_lt hpos.ne']
              omega
            rw [height_of_packComponents hword, BitVec.toNat_ofNat, BitVec.toNat_ofNat]
            congr 1
            unfold elevation
            omega

theorem isNaN_of_packComponents {x : Float32} {s : Sign} {exponent : BitVec 8}
    {fraction : BitVec 23}
    (h : x.toModel.toBits.toBitVec = packComponents .binary32 s exponent fraction)
    (number : exponent ≠ -1#8 ∨ fraction = 0#23) : x.isNaN = false := by
  show (UnpackedFloat.unpack .binary32 x.toModel.toBits.toBitVec).isNaN = false
  rw [h, UnpackedFloat.unpack]
  simp only [unpackExponent_packComponents, unpackMantissa_packComponents,
    unpackSign_packComponents]
  split
  · next hones =>
      rw [if_pos (number.resolve_left (not_not_intro hones))]
      rfl
  · split
    · split <;> rfl
    · rfl

theorem isNaN_packed {u : UnpackedFloat} (h : u.isNaN = false) : (packed u).isNaN = false := by
  have hword : (packed u).toModel.toBits.toBitVec = UnpackedFloat.pack .binary32 u := rfl
  cases u with
  | notANumber => cases h
  | infinity s => exact isNaN_of_packComponents hword (.inr rfl)
  | zero s => exact isNaN_of_packComponents hword (.inr rfl)
  | finite s m e pos =>
      rw [UnpackedFloat.pack] at hword
      dsimp only at hword
      split at hword
      · exact isNaN_of_packComponents hword (.inr rfl)
      · next hroom =>
          split at hword
          · refine isNaN_of_packComponents hword (.inl fun hones => ?_)
            have hlast := congrArg BitVec.toNat hones
            have hvalue : (-1#8).toNat = 255 := rfl
            rw [BitVec.toNat_ofNat, hvalue] at hlast
            omega
          · exact isNaN_of_packComponents hword (.inl (by decide))

/-! ## What singles are worth -/

/-- What a single is worth; what is not finite is worth nothing. -/
def value (x : Float32) : ℚ :=
  decodedValue x.toModel.unpack

theorem isFinite_zero : Float32.isFinite 0 = true := by rfl

theorem isFinite_one : Float32.isFinite 1 = true := by rfl

theorem isFinite_two : Float32.isFinite 2 = true := by rfl

theorem value_zero : value 0 = 0 := by rfl

theorem value_one : value 1 = 1 := by
  have hparts : value 1 = worth (-23) (2 ^ 23) := by rfl
  norm_num [hparts, worth]

theorem value_two : value 2 = 2 := by
  have hparts : value 2 = worth (-22) (2 ^ 23) := by rfl
  norm_num [hparts, worth]

/-- The parts that a finite single is made of. -/
structure Parts (x : Float32) (s : Sign) (e : Int) (m : Nat) : Prop where
  canonical : Canonical e m
  unpacked : x.toModel.unpack = ofParts s e m
  height_eq : height x = s.apply (elevation e m)

theorem Parts.value_eq {x : Float32} {s : Sign} {e : Int} {m : Nat} (h : Parts x s e m) :
    value x = worth e (s.apply m) := by
  rw [value, h.unpacked, decodedValue_ofParts]

theorem exists_parts {x : Float32} (h : x.isFinite = true) : ∃ s e m, Parts x s e m := by
  have hplaced := placed_height (isNaN_of_isFinite h)
  have hfinite : x.toModel.unpack.isFinite = true := h
  generalize hunpack : x.toModel.unpack = u at hplaced hfinite
  generalize hheight : height x = level at hplaced
  cases hplaced with
  | infinity s => cases hfinite
  | zero s =>
      refine ⟨s, -149, 0, ⟨le_rfl, by norm_num, by norm_num, .inr rfl⟩, ?_, ?_⟩
      · rw [hunpack, ofParts_zero]
      · rw [hheight]
        cases s <;> rfl
  | @finite s e m pos canonical =>
      refine ⟨s, e, m, canonical, ?_, hheight⟩
      rw [hunpack, ofParts_of_pos s e pos]

theorem Normal.signed_le_iff (s t : Sign) {e f : Int} {m n : Nat} (hm : Normal e m)
    (hn : Normal f n) : worth e (s.apply m) ≤ worth f (t.apply n) ↔
      s.apply (elevation e m) ≤ t.apply (elevation f n) := by
  have hground : worth (-149) (0 : Nat) = 0 := worth_zero (-149)
  have hlevel : elevation (-149) 0 = 0 := by rfl
  have hmzero := hm.worth_le_iff normal_zero
  have hnzero := hn.worth_le_iff normal_zero
  rw [hground, hlevel] at hmzero hnzero
  have hmpos := worth_nonneg e m
  have hnpos := worth_nonneg f n
  have hmlow := hm.elevation_nonneg
  have hnlow := hn.elevation_nonneg
  cases s <;> cases t <;> simp only [Sign.apply, worth_neg]
  · rw [neg_le_neg_iff, neg_le_neg_iff]
    exact hn.worth_le_iff hm
  · exact ⟨fun _ => by omega, fun _ => by linarith⟩
  · -- something that is at least zero is at most something that is at most zero
    refine ⟨fun h => ?_, fun h => ?_⟩
    · have hm' := hmzero.mp (by linarith)
      have hn' := hnzero.mp (by linarith)
      omega
    · have hm' := hmzero.mpr (by omega)
      have hn' := hnzero.mpr (by omega)
      linarith
  · exact hm.worth_le_iff hn

theorem value_le_value {x y : Float32} (hx : x.isFinite = true) (hy : y.isFinite = true) :
    value x ≤ value y ↔ x ≤ y := by
  obtain ⟨s, e, m, left⟩ := exists_parts hx
  obtain ⟨t, f, n, right⟩ := exists_parts hy
  rw [left.value_eq, right.value_eq, left.canonical.normal.signed_le_iff s t right.canonical.normal,
    ← left.height_eq, ← right.height_eq, single_le_iff]
  exact ⟨fun h => ⟨isNaN_of_isFinite hx, isNaN_of_isFinite hy, h⟩, fun h => h.2.2⟩

/-- Whether a single is an exact value rounded: finite singles that the value does not exceed are
not exceeded, and those that do not exceed the value are not below. -/
structure Rounds (q : ℚ) (x : Float32) : Prop where
  number : x.isNaN = false
  le_of_le : ∀ {y : Float32}, y.isFinite = true → q ≤ value y → x ≤ y
  ge_of_ge : ∀ {y : Float32}, y.isFinite = true → value y ≤ q → y ≤ x

theorem Faithful.compared {q : ℚ} {e : Int} {m : Nat} (h : Faithful q e m) (nonneg : 0 ≤ q)
    (t : Sign) {f : Int} {k : Nat} (hk : Canonical f k) :
    (q ≤ worth f (t.apply k) → min (elevation e m) (255 * 2 ^ 23) ≤ t.apply (elevation f k)) ∧
      (worth f (t.apply k) ≤ q → t.apply (elevation f k) ≤ min (elevation e m) (255 * 2 ^ 23)) := by
  have hground : worth (-149) (0 : Nat) = 0 := worth_zero (-149)
  have hbelow := h.normal.elevation_nonneg
  have hroom : 0 ≤ elevation f k ∧ elevation f k ≤ 255 * 2 ^ 23 := by
    obtain ⟨hleast, hmost, hsmall, -⟩ := hk
    unfold elevation
    omega
  cases t with
  | positive =>
      refine ⟨fun hle => ?_, fun hle => ?_⟩
      · exact (min_le_left _ _).trans (h.above hk.normal hle)
      · exact le_min (h.below hk.normal hle) hroom.2
  | negative =>
      have hvalue : worth f (Sign.negative.apply k) = -worth f k := worth_neg f k
      have hnonneg := worth_nonneg f k
      rw [hvalue]
      simp only [Sign.apply]
      refine ⟨fun hle => ?_, fun _ => by omega⟩
      -- a value that is not negative and at most one that is not positive is zero, as is that one
      have hzero := h.above normal_zero (by linarith)
      have hzero' := (hk.normal.worth_le_iff normal_zero).mp (by linarith)
      have hlevel : elevation (-149) 0 = 0 := by rfl
      omega

theorem isNaN_ofParts (s : Sign) (e : Int) (m : Nat) : (ofParts s e m).isNaN = false := by
  unfold ofParts
  split <;> rfl

theorem rounds_of_parts {q : ℚ} {x : Float32} (number : x.isNaN = false)
    (h : ∀ (t : Sign) {f : Int} {k : Nat}, Canonical f k →
      (q ≤ worth f (t.apply k) → height x ≤ t.apply (elevation f k)) ∧
        (worth f (t.apply k) ≤ q → t.apply (elevation f k) ≤ height x)) : Rounds q x where
  number := number
  le_of_le := by
    intro y hy hle
    obtain ⟨t, f, k, parts⟩ := exists_parts hy
    rw [parts.value_eq] at hle
    rw [single_le_iff, parts.height_eq]
    exact ⟨number, isNaN_of_isFinite hy, (h t parts.canonical).1 hle⟩
  ge_of_ge := by
    intro y hy hge
    obtain ⟨t, f, k, parts⟩ := exists_parts hy
    rw [parts.value_eq] at hge
    rw [single_le_iff, parts.height_eq]
    exact ⟨isNaN_of_isFinite hy, number, (h t parts.canonical).2 hge⟩

theorem Rounded.rounds {q : ℚ} {u : UnpackedFloat} (h : Rounded q u) : Rounds q (packed u) := by
  cases h with
  | positive nonneg faithful =>
      refine rounds_of_parts (isNaN_packed (isNaN_ofParts _ _ _)) fun t f k hk => ?_
      rw [height_packed .positive faithful.normal]
      exact faithful.compared nonneg t hk
  | negative nonpos faithful =>
      refine rounds_of_parts (isNaN_packed (isNaN_ofParts _ _ _)) fun t f k hk => ?_
      obtain ⟨habove, hbelow⟩ := faithful.compared (neg_nonneg.mpr nonpos) (-t) hk
      rw [apply_neg, worth_neg, apply_neg] at habove hbelow
      rw [height_packed .negative faithful.normal]
      refine ⟨fun hle => ?_, fun hge => ?_⟩
      · exact Int.neg_le_of_neg_le (hbelow (neg_le_neg hle))
      · exact Int.le_neg_of_le_neg (habove (neg_le_neg hge))

/-! ## The operations -/

section Operations

variable {x y : Float32}

/-- An operation that is rounded on parts is rounded on the singles that are made of them. -/
theorem rounds_of_rounded (law : ℚ → ℚ → ℚ)
    (operation : UnpackedFloat → UnpackedFloat → UnpackedFloat)
    (h : ∀ (s t : Sign) (e f : Int) (m n : Nat), Normal e m → Normal f n →
      Rounded (law (worth e (s.apply m)) (worth f (t.apply n)))
        (operation (ofParts s e m) (ofParts t f n)))
    (hx : x.isFinite = true) (hy : y.isFinite = true) :
    Rounds (law (value x) (value y)) (packed (operation x.toModel.unpack y.toModel.unpack)) := by
  obtain ⟨s, e, m, left⟩ := exists_parts hx
  obtain ⟨t, f, n, right⟩ := exists_parts hy
  rw [left.unpacked, right.unpacked, left.value_eq, right.value_eq]
  exact (h s t e f m n left.canonical.normal right.canonical.normal).rounds

theorem add_rounds (hx : x.isFinite = true) (hy : y.isFinite = true) :
    Rounds (value x + value y) (x + y) :=
  rounds_of_rounded (· + ·) (add .binary32) (fun s t _ _ _ _ => rounded_add s t) hx hy

theorem sub_rounds (hx : x.isFinite = true) (hy : y.isFinite = true) :
    Rounds (value x - value y) (x - y) :=
  rounds_of_rounded (· - ·) (sub .binary32) (fun s t _ _ _ _ => rounded_sub s t) hx hy

theorem mul_rounds (hx : x.isFinite = true) (hy : y.isFinite = true) :
    Rounds (value x * value y) (x * y) :=
  rounds_of_rounded (· * ·) (mul .binary32) (fun s t _ _ _ _ => rounded_mul s t) hx hy

end Operations

/-! ## Beyond the finite -/

section Special

variable {x y : Float32}

theorem exists_infinity (number : x.isNaN = false) (infinite : x.isFinite = false) :
    ∃ s, x.toModel.unpack = .infinity s ∧ height x = s.apply (255 * 2 ^ 23) := by
  have hplaced := placed_height number
  have hfinite : x.toModel.unpack.isFinite = false := infinite
  generalize hunpack : x.toModel.unpack = u at hplaced hfinite
  generalize hheight : height x = level at hplaced
  cases hplaced with
  | infinity s => exact ⟨s, rfl, rfl⟩
  | zero s => cases hfinite
  | finite s pos canonical => cases hfinite

theorem isNaN_roundWithAccuracy (s : Sign) (m : Nat) (e : Int) (accuracy : Accuracy) :
    (roundWithAccuracy .binary32 s m e accuracy).isNaN = false := by
  rw [roundWithAccuracy]
  dsimp only
  split <;> rfl

theorem isNaN_normalize (m e : Int) (zeroSign : Sign) :
    (UnpackedFloat.normalize .binary32 m e zeroSign).isNaN = false := by
  rw [UnpackedFloat.normalize]
  split
  · exact isNaN_roundWithAccuracy _ _ _ _
  · rfl
  · exact isNaN_roundWithAccuracy _ _ _ _

theorem isNaN_sub (hx : x.isFinite = true) (hy : y.isNaN = false) : (x - y).isNaN = false := by
  have hfinite : x.toModel.unpack.isFinite = true := hx
  have hnumber : y.toModel.unpack.isNaN = false := hy
  show (packed (sub .binary32 x.toModel.unpack y.toModel.unpack)).isNaN = false
  refine isNaN_packed ?_
  generalize x.toModel.unpack = u at hfinite
  generalize y.toModel.unpack = v at hnumber
  cases u with
  | notANumber => cases hfinite
  | infinity s => cases hfinite
  | zero s =>
      cases v with
      | notANumber => cases hnumber
      | infinity t => rfl
      | zero t =>
          rw [UnpackedFloat.sub]
          split <;> rfl
      | finite t n f pos => rfl
  | finite s m e pos =>
      cases v with
      | notANumber => cases hnumber
      | infinity t => rfl
      | zero t => rfl
      | finite t n f pos => exact isNaN_normalize _ _ _

theorem isNaN_div (hx : x.isFinite = true) (nonzero : value x ≠ 0) (hy : y.isNaN = false) :
    (x / y).isNaN = false := by
  obtain ⟨s, e, m, parts⟩ := exists_parts hx
  have hpos : 0 < m := by
    rcases Nat.eq_zero_or_pos m with rfl | hpos
    · exact absurd (parts.value_eq.trans (worth_apply_zero s e)) nonzero
    · exact hpos
  have hnumber : y.toModel.unpack.isNaN = false := hy
  show (packed (div .binary32 x.toModel.unpack y.toModel.unpack)).isNaN = false
  rw [parts.unpacked, ofParts_of_pos s e hpos]
  refine isNaN_packed ?_
  generalize y.toModel.unpack = v at hnumber
  cases v with
  | notANumber => cases hnumber
  | infinity t => rfl
  | zero t => rfl
  | finite t n f pos => exact isNaN_roundWithAccuracy _ _ _ _

theorem isNaN_abs (hx : x.isNaN = false) : x.abs.isNaN = false := by
  have hnumber : x.toModel.unpack.isNaN = false := hx
  show (packed x.toModel.unpack.abs).isNaN = false
  refine isNaN_packed ?_
  generalize x.toModel.unpack = u at hnumber
  cases u with
  | notANumber => cases hnumber
  | infinity s => rfl
  | zero s => rfl
  | finite s m e pos => rfl

theorem le_abs (hx : x.isNaN = false) : x ≤ x.abs := by
  rw [single_le_iff]
  refine ⟨hx, isNaN_abs hx, ?_⟩
  show height x ≤ height (packed x.toModel.unpack.abs)
  have hplaced := placed_height hx
  generalize x.toModel.unpack = u at hplaced
  generalize height x = level at hplaced
  cases hplaced with
  | infinity s =>
      have habs : UnpackedFloat.abs (.infinity s) = .infinity .positive := rfl
      rw [habs, height_packed_infinity]
      cases s <;> simp only [Sign.apply] <;> omega
  | zero s => exact (height_packed_zero .positive).ge
  | @finite s e m pos canonical =>
      have habs : UnpackedFloat.abs (.finite s m e pos) = ofParts .positive e m :=
        (ofParts_of_pos .positive e pos).symm
      have hbounds := elevation_bounds pos canonical
      rw [habs, height_packed .positive canonical.normal, min_eq_left hbounds.2.le]
      cases s <;> simp only [Sign.apply] <;> omega

theorem unpack_of_infinite (hx : 0 ≤ x) (infinite : x.isFinite = false) :
    x.toModel.unpack = .infinity .positive := by
  obtain ⟨-, hnumber, hheight⟩ := single_le_iff.mp hx
  have hzero : height (0 : Float32) = 0 := by rfl
  obtain ⟨s, hunpack, hlevel⟩ := exists_infinity hnumber infinite
  rw [hzero, hlevel] at hheight
  cases s with
  | positive => exact hunpack
  | negative => simp [Sign.apply] at hheight

theorem le_infinity (hx : x.isNaN = false) : x ≤ packed (.infinity .positive) := by
  rw [single_le_iff, height_packed_infinity]
  refine ⟨hx, isNaN_packed rfl, ?_⟩
  simp only [Sign.apply]
  by_cases hfinite : x.isFinite = true
  · exact (isFinite_iff.mp hfinite).2.2.le
  · obtain ⟨s, -, hheight⟩ := exists_infinity hx (Bool.eq_false_iff.mpr hfinite)
    rw [hheight]
    cases s <;> simp only [Sign.apply] <;> omega

theorem le_add (hx : 0 ≤ x) (hy : y.isFinite = true) (hpos : 0 ≤ y) : x ≤ x + y ∧ y ≤ x + y := by
  by_cases hfinite : x.isFinite = true
  · have hrounds := add_rounds hfinite hy
    have hx' := (value_le_value isFinite_zero hfinite).mpr hx
    have hy' := (value_le_value isFinite_zero hy).mpr hpos
    rw [value_zero] at hx' hy'
    exact ⟨hrounds.ge_of_ge hfinite (by linarith), hrounds.ge_of_ge hy (by linarith)⟩
  · have hunpack := unpack_of_infinite hx (Bool.eq_false_iff.mpr hfinite)
    obtain ⟨t, f, n, parts⟩ := exists_parts hy
    have hsum : x + y = packed (.infinity .positive) := by
      show packed (add .binary32 x.toModel.unpack y.toModel.unpack) = _
      rw [hunpack, parts.unpacked, ofParts]
      split <;> rfl
    rw [hsum]
    exact ⟨le_infinity (single_le_iff.mp hx).2.1, le_infinity (isNaN_of_isFinite hy)⟩

theorem one_le_sub_one (h : 2 ≤ x) : 1 ≤ x - 1 := by
  by_cases hfinite : x.isFinite = true
  · have hvalue := (value_le_value isFinite_two hfinite).mpr h
    rw [value_two] at hvalue
    refine (sub_rounds hfinite isFinite_one).ge_of_ge isFinite_one ?_
    rw [value_one]
    linarith
  · have hpos : 0 ≤ x := single_le_trans (by rfl) h
    have hunpack := unpack_of_infinite hpos (Bool.eq_false_iff.mpr hfinite)
    obtain ⟨t, f, n, parts⟩ := exists_parts isFinite_one
    have hdifference : x - 1 = packed (.infinity .positive) := by
      show packed (sub .binary32 x.toModel.unpack (Float32.toModel 1).unpack) = _
      rw [hunpack, parts.unpacked, ofParts]
      split <;> rfl
    rw [hdifference]
    exact le_infinity (isNaN_of_isFinite isFinite_one)

end Special

/-! ## Bounds -/

section Bounds

variable {x y w : Float32}

theorem isFinite_larger (hx : x.isFinite = true) (hy : y.isFinite = true) :
    (larger x y).isFinite = true := by
  unfold larger
  split
  · exact hy
  · split
    · exact hx
    · split
      · exact hy
      · exact hx

/-- A number of the unit interval does not raise what it is multiplied with. -/
theorem mul_between (hw : w.isFinite = true) (hpos : 0 ≤ w) (hx : 0 ≤ x ∧ x ≤ 1) :
    0 ≤ w * x ∧ w * x ≤ w := by
  have hfinite := isFinite_of_le_of_le isFinite_zero isFinite_one hx.1 hx.2
  have hlow := (value_le_value isFinite_zero hfinite).mpr hx.1
  have hhigh := (value_le_value hfinite isFinite_one).mpr hx.2
  have hweight := (value_le_value isFinite_zero hw).mpr hpos
  rw [value_zero] at hlow hweight
  rw [value_one] at hhigh
  have hrounds := mul_rounds hw hfinite
  constructor
  · refine hrounds.ge_of_ge isFinite_zero ?_
    rw [value_zero]
    exact mul_nonneg hweight hlow
  · exact hrounds.le_of_le hw (mul_le_of_le_one_right hweight hhigh)

theorem add_between {a b c : Float32} (ha : a.isFinite = true) (hb : b.isFinite = true)
    (hc : c.isFinite = true) (room : value a + value b ≤ value c) (hx : 0 ≤ x ∧ x ≤ a)
    (hy : 0 ≤ y ∧ y ≤ b) : 0 ≤ x + y ∧ x + y ≤ c := by
  have hxfinite := isFinite_of_le_of_le isFinite_zero ha hx.1 hx.2
  have hyfinite := isFinite_of_le_of_le isFinite_zero hb hy.1 hy.2
  have hxvalue := (value_le_value hxfinite ha).mpr hx.2
  have hyvalue := (value_le_value hyfinite hb).mpr hy.2
  refine ⟨single_le_trans hx.1 (le_add hx.1 hyfinite hy.1).1, ?_⟩
  exact (add_rounds hxfinite hyfinite).le_of_le hc (by linarith)

end Bounds

end Vivarium.Number
