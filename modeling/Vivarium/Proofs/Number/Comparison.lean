import Vivarium.Number.Order
import Mathlib

/-!
# The comparisons of singles

A single that is a number stands somewhere on a line of integers. The word of a
positive one, read as an integer, grows with its value, since the exponent
comes before the fraction; among negative ones it is the other way round, and
the two zeros stand at one place. The three comparisons of singles are those of
these heights, and whatever is not a number compares with nothing. So facts
about comparing singles are facts about integers. Ranks differ from heights
only in that they keep the two zeros apart.
-/

namespace Vivarium.Number

open Float.Model UnpackedFloat

/-- Where a number stands on the line; what is not a number is put anywhere. -/
def height (x : Single) : Int :=
  if rank x < 0 then rank x + 1 else rank x

theorem height_le_of_rank_le {x y : Single} (h : rank x ≤ rank y) : height x ≤ height y := by
  unfold height
  split <;> split <;> omega

/-! ## Decoded values on the line

A finite value is decoded to an exponent and a significand, and the least
exponent is the only one with significands that are not full. So comparing
exponents first and significands then is comparing one number made of both. -/

/-- The distance from zero of a finite value with a given exponent and significand. -/
def elevation (e : Int) (m : Nat) : Int :=
  (e + 149) * 2 ^ 23 + m

/-- Whether exponent and significand are such as words are decoded to. -/
structure Canonical (e : Int) (m : Nat) : Prop where
  least : -149 ≤ e
  most : e ≤ 104
  small : m < 2 ^ 24
  full : 2 ^ 23 ≤ m ∨ e = -149

/-- Whether a decoded value is a number that stands at a given height. -/
inductive Placed : UnpackedFloat → Int → Prop where
  | infinity (sign : Sign) : Placed (.infinity sign) (sign.apply (255 * 2 ^ 23))
  | zero (sign : Sign) : Placed (.zero sign) 0
  | finite (sign : Sign) {e : Int} {m : Nat} (pos : 0 < m) (canonical : Canonical e m) :
      Placed (.finite sign m e pos) (sign.apply (elevation e m))

theorem elevation_bounds {e : Int} {m : Nat} (pos : 0 < m) (h : Canonical e m) :
    0 < elevation e m ∧ elevation e m < 255 * 2 ^ 23 := by
  obtain ⟨hleast, hmost, hsmall, -⟩ := h
  unfold elevation
  omega

theorem compare_elevation {e e' : Int} {m m' : Nat} (h : Canonical e m) (h' : Canonical e' m') :
    (compare e e').then (compare m m') = compare (elevation e m) (elevation e' m') := by
  obtain ⟨hleast, -, hsmall, hfull⟩ := h
  obtain ⟨hleast', -, hsmall', hfull'⟩ := h'
  rcases lt_trichotomy e e' with hlt | rfl | hgt
  · have hlow : elevation e m < elevation e' m' := by
      unfold elevation
      omega
    rw [compare_lt_iff_lt.mpr hlow, Ordering.then_eq_lt]
    exact .inl (compare_lt_iff_lt.mpr hlt)
  · have hsame : compare (elevation e m) (elevation e m') = compare m m' := by
      unfold elevation
      rcases lt_trichotomy m m' with hlt | rfl | hgt
      · rw [compare_lt_iff_lt.mpr hlt, compare_lt_iff_lt]
        omega
      · rw [compare_eq_iff_eq.mpr rfl, compare_eq_iff_eq.mpr rfl]
      · rw [compare_gt_iff_gt.mpr hgt, compare_gt_iff_gt]
        omega
    rw [hsame, compare_eq_iff_eq.mpr rfl]
    rfl
  · have hhigh : elevation e' m' < elevation e m := by
      unfold elevation
      omega
    rw [compare_gt_iff_gt.mpr hhigh, Ordering.then_eq_gt]
    exact .inl (compare_gt_iff_gt.mpr hgt)

theorem compare_neg (i j : Int) : compare (-i) (-j) = (compare i j).swap := by
  rcases lt_trichotomy i j with hlt | rfl | hgt
  · rw [compare_lt_iff_lt.mpr hlt, compare_gt_iff_gt.mpr (by omega)]
    rfl
  · rw [compare_eq_iff_eq.mpr rfl, compare_eq_iff_eq.mpr rfl]
    rfl
  · rw [compare_gt_iff_gt.mpr hgt, compare_lt_iff_lt.mpr (by omega)]
    rfl

theorem some_compare_of_lt {i j : Int} (h : i < j) : some (compare i j) = some .lt := by
  rw [compare_lt_iff_lt.mpr h]

theorem some_compare_of_gt {i j : Int} (h : j < i) : some (compare i j) = some .gt := by
  rw [compare_gt_iff_gt.mpr h]

section Compare

variable {b : UnpackedFloat} {j : Int}

theorem compare_infinity_of_placed (s : Sign) (hb : Placed b j) :
    UnpackedFloat.compare (.infinity s) b = some (compare (s.apply (255 * 2 ^ 23)) j) := by
  cases hb with
  | infinity t => cases s <;> cases t <;> rfl
  | zero t =>
      cases s
      · exact (some_compare_of_lt (by simp only [Sign.apply]; omega)).symm
      · exact (some_compare_of_gt (by simp only [Sign.apply]; omega)).symm
  | finite t pos canonical =>
      have hbounds := elevation_bounds pos canonical
      cases s
      · exact (some_compare_of_lt (by cases t <;> simp only [Sign.apply] <;> omega)).symm
      · exact (some_compare_of_gt (by cases t <;> simp only [Sign.apply] <;> omega)).symm

theorem compare_zero_of_placed (s : Sign) (hb : Placed b j) :
    UnpackedFloat.compare (.zero s) b = some (compare 0 j) := by
  cases hb with
  | infinity t =>
      cases t
      · exact (some_compare_of_gt (by simp only [Sign.apply]; omega)).symm
      · exact (some_compare_of_lt (by simp only [Sign.apply]; omega)).symm
  | zero t => rfl
  | finite t pos canonical =>
      have hbounds := elevation_bounds pos canonical
      cases t
      · exact (some_compare_of_gt (by simp only [Sign.apply]; omega)).symm
      · exact (some_compare_of_lt (by simp only [Sign.apply]; omega)).symm

/-- Only two finite values of one sign take more than a look at the signs and at the bounds. -/
theorem compare_finite_of_placed (s : Sign) {e : Int} {m : Nat} (pos : 0 < m)
    (canonical : Canonical e m) (hb : Placed b j) :
    UnpackedFloat.compare (.finite s m e pos) b =
      some (compare (s.apply (elevation e m)) j) := by
  have hbounds := elevation_bounds pos canonical
  cases hb with
  | infinity t =>
      cases t
      · exact (some_compare_of_gt (by cases s <;> simp only [Sign.apply] <;> omega)).symm
      · exact (some_compare_of_lt (by cases s <;> simp only [Sign.apply] <;> omega)).symm
  | zero t =>
      cases s
      · exact (some_compare_of_lt (by simp only [Sign.apply]; omega)).symm
      · exact (some_compare_of_gt (by simp only [Sign.apply]; omega)).symm
  | finite t pos' canonical' =>
      have hbounds' := elevation_bounds pos' canonical'
      have hsame := compare_elevation canonical canonical'
      cases s <;> cases t
      · simp only [Sign.apply, compare_neg, ← hsame]
        rfl
      · exact (some_compare_of_lt (by simp only [Sign.apply]; omega)).symm
      · exact (some_compare_of_gt (by simp only [Sign.apply]; omega)).symm
      · simp only [Sign.apply, ← hsame]
        rfl

end Compare

theorem compare_of_placed {a b : UnpackedFloat} {i j : Int} (ha : Placed a i) (hb : Placed b j) :
    a.compare b = some (compare i j) := by
  cases ha with
  | infinity s => exact compare_infinity_of_placed s hb
  | zero s => exact compare_zero_of_placed s hb
  | finite s pos canonical => exact compare_finite_of_placed s pos canonical hb

/-! ## Decoding

The three fields of a word are digits of the number that it is. -/

section Decoding

variable (word : BitVec Format.binary32.numBits)

theorem toNat_unpackExponent :
    (@unpackExponent Format.binary32 word).toNat = word.toNat / 2 ^ 23 % 2 ^ 8 := by
  rw [unpackExponent, BitVec.toNat_cast, BitVec.extractLsb_toNat, Nat.shiftRight_eq_div_pow]
  rfl

theorem toNat_unpackMantissa :
    (@unpackMantissa Format.binary32 word).toNat = word.toNat % 2 ^ 23 := by
  rw [unpackMantissa, BitVec.toNat_cast, BitVec.extractLsb_toNat, Nat.shiftRight_zero]
  rfl

theorem toNat_unpackSign : (@unpackSign Format.binary32 word).toNat = word.toNat / 2 ^ 31 := by
  have hlt : word.toNat < 2 ^ 32 := word.isLt
  have hbit : word.toNat / 2 ^ 31 < 2 := by omega
  rw [unpackSign, BitVec.toNat_cast, BitVec.extractLsb_toNat, Nat.shiftRight_eq_div_pow]
  exact Nat.mod_eq_of_lt hbit

theorem toNat_full (fraction : BitVec 23) :
    (1#1 ++ fraction).toNat = 2 ^ 23 + fraction.toNat := by
  rw [BitVec.toNat_append, ← Nat.shiftLeft_add_eq_or_of_lt fraction.isLt, Nat.shiftLeft_eq]
  rfl

theorem apply_unpackSign (n : Int) :
    (Sign.ofBitVec (@unpackSign Format.binary32 word)).apply n =
      if word.toNat < 2 ^ 31 then n else -n := by
  have hsign := toNat_unpackSign word
  rw [Sign.ofBitVec]
  by_cases hpos : word.toNat < 2 ^ 31
  · have hzero : @unpackSign Format.binary32 word = 0#1 := by
      rw [← BitVec.toNat_inj, hsign, BitVec.toNat_zero]
      omega
    rw [if_pos hpos, if_pos hzero]
    rfl
  · have hone : @unpackSign Format.binary32 word ≠ 0#1 := by
      rw [Ne, ← BitVec.toNat_inj, hsign, BitVec.toNat_zero]
      omega
    rw [if_neg hpos, if_neg hone]
    rfl

theorem placed_unpack
    (number : (UnpackedFloat.unpack Format.binary32 word).isNaN = false) :
    Placed (UnpackedFloat.unpack Format.binary32 word)
      (if word.toNat < 2 ^ 31 then word.toNat else 2 ^ 31 - word.toNat) := by
  have hlt : word.toNat < 2 ^ 32 := word.isLt
  have hexponent := toNat_unpackExponent word
  have hfraction := toNat_unpackMantissa word
  have hbias : (Format.binary32.exponentBias + Format.binary32.mantissaBitsWithoutImplicit : Int) =
      150 := rfl
  have hones : (-1#8).toNat = 255 := rfl
  unfold UnpackedFloat.unpack at number ⊢
  simp only [hbias] at number ⊢
  -- First the exponent of ones, then that of zeros, then all the others.
  split
  · next hspecial =>
      rw [if_pos hspecial] at number
      rw [← BitVec.toNat_inj, hones] at hspecial
      split
      · next hzero =>
          rw [← BitVec.toNat_inj, BitVec.toNat_zero] at hzero
          convert Placed.infinity _ using 1
          rw [apply_unpackSign]
          split <;> omega
      · next hpayload =>
          rw [if_neg hpayload] at number
          cases number
  · next hfinite =>
      rw [← BitVec.toNat_inj, hones] at hfinite
      split
      · next hsmall =>
          rw [← BitVec.toNat_inj, BitVec.toNat_zero] at hsmall
          split
          · next hzero =>
              rw [← BitVec.toNat_inj, BitVec.toNat_zero] at hzero
              convert Placed.zero _ using 1
              split <;> omega
          · convert Placed.finite _ _ _ using 1
            · rw [apply_unpackSign, elevation, hsmall]
              split <;> omega
            · constructor <;> omega
      · next hnormal =>
          rw [← BitVec.toNat_inj, BitVec.toNat_zero] at hnormal
          have hfull := toNat_full (@unpackMantissa Format.binary32 word)
          convert Placed.finite _ _ _ using 1
          · rw [apply_unpackSign, elevation, hfull]
            split <;> omega
          · constructor <;> omega

end Decoding

/-! ## On singles -/

variable {x y z : Float32}

theorem toBits_inj : x.toBits = y.toBits ↔ x = y := by
  refine ⟨fun h => ?_, fun h => h ▸ rfl⟩
  obtain ⟨⟨xbits, _⟩⟩ := x
  obtain ⟨⟨ybits, _⟩⟩ := y
  have hbits : xbits = ybits := h
  subst hbits
  rfl

theorem height_eq_of_word (x : Float32) : height x =
    if x.toModel.toBits.toBitVec.toNat < 2 ^ 31 then (x.toModel.toBits.toBitVec.toNat : Int)
    else 2 ^ 31 - x.toModel.toBits.toBitVec.toNat := by
  have hweight : Format.single.signWeight = 2 ^ 31 := rfl
  have hword : (Single.of x).word.toNat = x.toModel.toBits.toBitVec.toNat := rfl
  unfold height rank
  simp only [hweight, hword]
  split <;> split <;> omega

theorem placed_height (hx : x.isNaN = false) : Placed x.toModel.unpack (height x) := by
  rw [height_eq_of_word]
  exact placed_unpack x.toModel.toBits.toBitVec hx

theorem compare_notANumber (a : UnpackedFloat) : a.compare .notANumber = none := by
  cases a with
  | notANumber => rfl
  | infinity s => cases s <;> rfl
  | zero s => rfl
  | finite s m e pos => cases s <;> rfl

theorem numbers_of_compare {a b : UnpackedFloat} {o : Ordering} (h : a.compare b = some o) :
    a.isNaN = false ∧ b.isNaN = false := by
  constructor
  · cases a with
    | notANumber => cases h
    | infinity s => rfl
    | zero s => rfl
    | finite s m e pos => rfl
  · cases b with
    | notANumber =>
        rw [compare_notANumber] at h
        cases h
    | infinity s => rfl
    | zero s => rfl
    | finite s m e pos => rfl

theorem compare_eq_some_iff {o : Ordering} :
    x.toModel.unpack.compare y.toModel.unpack = some o ↔
      x.isNaN = false ∧ y.isNaN = false ∧ compare (height x) (height y) = o := by
  constructor
  · intro h
    obtain ⟨hx, hy⟩ := numbers_of_compare h
    rw [compare_of_placed (placed_height hx) (placed_height hy)] at h
    exact ⟨hx, hy, Option.some.inj h⟩
  · rintro ⟨hx, hy, rfl⟩
    exact compare_of_placed (placed_height hx) (placed_height hy)

theorem single_lt_iff : x < y ↔ x.isNaN = false ∧ y.isNaN = false ∧ height x < height y := by
  have hcompare : x < y ↔ x.toModel.unpack.compare y.toModel.unpack = some .lt := by
    show decide (x.toModel.unpack.lt y.toModel.unpack = true) = true ↔ _
    rw [decide_eq_true_eq, UnpackedFloat.lt, beq_iff_eq]
  rw [hcompare, compare_eq_some_iff, compare_lt_iff_lt]

theorem single_beq_iff :
    (x == y) = true ↔ x.isNaN = false ∧ y.isNaN = false ∧ height x = height y := by
  have hcompare : (x == y) = true ↔ x.toModel.unpack.compare y.toModel.unpack = some .eq := by
    show x.toModel.unpack.beq y.toModel.unpack = true ↔ _
    rw [UnpackedFloat.beq, beq_iff_eq]
  rw [hcompare, compare_eq_some_iff, compare_eq_iff_eq]

theorem single_le_iff : x ≤ y ↔ x.isNaN = false ∧ y.isNaN = false ∧ height x ≤ height y := by
  have hcompare : x ≤ y ↔
      ∃ o, x.toModel.unpack.compare y.toModel.unpack = some o ∧ o.isLE = true := by
    show decide (x.toModel.unpack.le y.toModel.unpack = true) = true ↔ _
    rw [decide_eq_true_eq, UnpackedFloat.le, Option.any_eq_true]
  rw [hcompare]
  simp only [compare_eq_some_iff]
  constructor
  · rintro ⟨o, ⟨hx, hy, rfl⟩, hle⟩
    exact ⟨hx, hy, Int.isLE_compare.mp hle⟩
  · rintro ⟨hx, hy, hle⟩
    exact ⟨_, ⟨hx, hy, rfl⟩, Int.isLE_compare.mpr hle⟩

theorem single_lt_trans (hxy : x < y) (hyz : y < z) : x < z := by
  rw [single_lt_iff] at hxy hyz ⊢
  exact ⟨hxy.1, hyz.2.1, hxy.2.2.trans hyz.2.2⟩

theorem single_le_trans (hxy : x ≤ y) (hyz : y ≤ z) : x ≤ z := by
  rw [single_le_iff] at hxy hyz ⊢
  exact ⟨hxy.1, hyz.2.1, hxy.2.2.trans hyz.2.2⟩

theorem single_lt_irrefl (x : Float32) : ¬ x < x := by
  rw [single_lt_iff]
  exact fun h => Int.lt_irrefl _ h.2.2

theorem isNaN_of_isFinite (h : x.isFinite = true) : x.isNaN = false := by
  have hfinite : x.toModel.unpack.isFinite = true := h
  show x.toModel.unpack.isNaN = false
  generalize x.toModel.unpack = value at hfinite
  cases value with
  | notANumber => cases hfinite
  | infinity sign => rfl
  | zero sign => rfl
  | finite sign m e pos => rfl

theorem single_le_refl (number : x.isNaN = false) : x ≤ x :=
  single_le_iff.mpr ⟨number, number, Int.le_refl _⟩

theorem single_not_lt_of_le (h : x ≤ y) : ¬ y < x := by
  rw [single_le_iff] at h
  rw [single_lt_iff]
  omega

theorem single_le_of_not_lt (hx : x.isNaN = false) (hy : y.isNaN = false) (h : ¬ x < y) :
    y ≤ x := by
  rw [single_lt_iff] at h
  rw [single_le_iff]
  exact ⟨hy, hx, Int.not_lt.mp fun hlt => h ⟨hx, hy, hlt⟩⟩

theorem lt_or_beq_of_le (h : x ≤ y) : x < y ∨ (x == y) = true := by
  rw [single_le_iff] at h
  rw [single_lt_iff, single_beq_iff]
  obtain ⟨hx, hy, hle⟩ := h
  rcases Int.lt_or_eq_of_le hle with hlt | heq
  · exact .inl ⟨hx, hy, hlt⟩
  · exact .inr ⟨hx, hy, heq⟩

theorem isFinite_iff : x.isFinite = true ↔
    x.isNaN = false ∧ -(255 * 2 ^ 23) < height x ∧ height x < 255 * 2 ^ 23 := by
  have hplaced : x.isNaN = false → Placed x.toModel.unpack (height x) := placed_height
  show x.toModel.unpack.isFinite = true ↔ x.toModel.unpack.isNaN = false ∧ _
  have hnumber : x.isNaN = x.toModel.unpack.isNaN := rfl
  rw [hnumber] at hplaced
  generalize x.toModel.unpack = value at hplaced ⊢
  generalize height x = level at hplaced ⊢
  cases value with
  | notANumber => simp [UnpackedFloat.isFinite, UnpackedFloat.isNaN]
  | infinity sign =>
      have hlevel := hplaced rfl
      cases hlevel
      cases sign <;> simp [UnpackedFloat.isFinite, UnpackedFloat.isNaN, Sign.apply]
  | zero sign =>
      have hlevel := hplaced rfl
      cases hlevel
      simp [UnpackedFloat.isFinite, UnpackedFloat.isNaN]
  | finite sign m e pos =>
      have hlevel := hplaced rfl
      cases hlevel with
      | finite _ _ canonical =>
          have hbounds := elevation_bounds pos canonical
          refine ⟨fun _ => ⟨rfl, ?_⟩, fun _ => rfl⟩
          cases sign <;> simp only [Sign.apply] <;> omega

theorem isFinite_of_le_of_le (hx : x.isFinite = true) (hz : z.isFinite = true) (hxy : x ≤ y)
    (hyz : y ≤ z) : y.isFinite = true := by
  rw [isFinite_iff] at hx hz ⊢
  rw [single_le_iff] at hxy hyz
  exact ⟨hxy.2.1, by omega, by omega⟩

end Vivarium.Number
