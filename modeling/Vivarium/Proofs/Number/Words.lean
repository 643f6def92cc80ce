import Vivarium.Proofs.Number.Arithmetic

/-!
# Words and values

A single is kept as a word, and a value forgets at most which of the words that
are no numbers it was. So a value that goes into a word comes back from it, and
a word that is a number comes back from its value. The first is what lets a
fitness be judged where it has been stored; the second is what puts words in the
place of values wherever they are compared: words are ranked by their bits,
values are compared by their heights, and the two heights are one.
-/

namespace Vivarium.Number

open Float.Model UnpackedFloat

theorem height_packed_of_placed {u : UnpackedFloat} {i : Int} (h : Placed u i) :
    height (packed u) = i := by
  cases h with
  | infinity s => exact height_packed_infinity s
  | zero s => exact height_packed_zero s
  | @finite s e m pos canonical =>
      have hbounds := elevation_bounds pos canonical
      rw [← ofParts_of_pos s e pos, height_packed s canonical.normal, min_eq_left hbounds.2.le]

/-- Packing undoes unpacking, but for the words of no numbers. -/
theorem packed_unpack (word : BitVec Format.binary32.numBits)
    (number : (UnpackedFloat.unpack .binary32 word).isNaN = false) :
    (packed (.unpack .binary32 word)).toModel.toBits.toBitVec = word := by
  have hheight := height_packed_of_placed (placed_unpack word number)
  rw [height_eq_of_word] at hheight
  -- The heights tell all words apart but those of the two zeros.
  by_cases hzero : word.toNat = 0
  · have hword : word = 0#32 := BitVec.eq_of_toNat_eq hzero
    subst hword
    rfl
  · by_cases hminus : word.toNat = 2 ^ 31
    · have hword : word = 0x80000000#32 := BitVec.eq_of_toNat_eq hminus
      subst hword
      rfl
    · refine BitVec.eq_of_toNat_eq ?_
      split at hheight <;> split at hheight <;> omega

theorem fields_of_isNaN {word : BitVec Format.binary32.numBits}
    (h : (UnpackedFloat.unpack .binary32 word).isNaN = true) :
    UnpackedFloat.unpack .binary32 word = .notANumber ∧
      @unpackExponent Format.binary32 word = -1#8 ∧
      @unpackMantissa Format.binary32 word ≠ 0#23 := by
  unfold UnpackedFloat.unpack at h ⊢
  dsimp only at h ⊢
  split
  · next hones =>
      rw [if_pos hones] at h
      split
      · next hzero =>
          rw [if_pos hzero] at h
          cases h
      · next hpayload => exact ⟨rfl, hones, hpayload⟩
  · next hfinite =>
      rw [if_neg hfinite] at h
      split at h
      · split at h <;> cases h
      · cases h

/-- There is one value that is no number, and one word it comes in. -/
theorem toBits_of_isNaN {x : Float32} (h : x.isNaN = true) : x.toBits = 0x7FC00000 := by
  obtain ⟨-, hones, hpayload⟩ := fields_of_isNaN h
  exact UInt32.toBitVec_inj.mp (x.toModel.valid.eq_packedNaN hones hpayload)

theorem ofSingle_of_isNaN {x : Float32} (h : x.isNaN = true) : ofSingle x = .nan := by
  rw [ofSingle, toBits_of_isNaN h]
  rfl

namespace Single

/-- A word that is a number comes back from its value. -/
theorem of_value {x : Single} (number : x.value.isNaN = false) : of x.value = x := by
  have hunpack : (UnpackedFloat.unpack .binary32 x.word.toBitVec).isNaN = false := by
    by_contra hnan
    have hvalue : x.value = packed (.unpack .binary32 x.word.toBitVec) := rfl
    generalize UnpackedFloat.unpack .binary32 x.word.toBitVec = u at hnan hvalue
    cases u with
    | notANumber =>
        rw [hvalue] at number
        revert number
        decide
    | infinity s | zero s | finite s m e pos => exact hnan rfl
  have hword : (of x.value).word.toBitVec = x.word.toBitVec := packed_unpack _ hunpack
  obtain ⟨word⟩ := x
  exact congrArg Single.mk (UInt32.toBitVec_inj.mp hword)

/-- A value comes back from its word. -/
theorem value_of (x : Float32) : (of x).value = x := by
  rw [← toBits_inj, ← UInt32.toBitVec_inj]
  cases hnumber : (UnpackedFloat.unpack .binary32 x.toModel.toBits.toBitVec).isNaN with
  | false => exact packed_unpack _ hnumber
  | true =>
      obtain ⟨hvalue, -, -⟩ := fields_of_isNaN hnumber
      show UnpackedFloat.pack .binary32 (.unpack .binary32 x.toModel.toBits.toBitVec) = _
      rw [hvalue, toBits_of_isNaN hnumber]
      rfl

/-! ## Comparing words by their values -/

section

variable {x y : Single}

theorem le_iff : x.value ≤ y.value ↔
    x.value.isNaN = false ∧ y.value.isNaN = false ∧ height x ≤ height y := by
  rw [single_le_iff]
  refine and_congr_right fun hx => and_congr_right fun hy => ?_
  rw [of_value hx, of_value hy]

theorem beq_iff : (x.value == y.value) = true ↔
    x.value.isNaN = false ∧ y.value.isNaN = false ∧ height x = height y := by
  rw [single_beq_iff]
  refine and_congr_right fun hx => and_congr_right fun hy => ?_
  rw [of_value hx, of_value hy]

end

end Single

end Vivarium.Number
