import Vivarium.Number.Shortest
import Vivarium.Proofs.Number.Digits

/-!
# Seventeen digits suffice

The grid that the search comes to last has a unit of less than `10 ^ -16` of the
value. A value has fewer than `2 ^ 53` units in its last place, which is less
than `10 ^ 16`, so the unit of the grid is smaller than the unit in the last
place, and the nearest point of the grid is less than half of that away. Below a
power of two, where the room is half as wide, the value is `2 ^ 52` units at most,
and the same holds. So the search never runs out of grids, and what it finds is
never zero.
-/

namespace Vivarium.Number

theorem two_mul_roundDiv (tie : Tie) (num : Nat) {den : Nat} (pos : 0 < den) :
    2 * num ≤ 2 * (roundDiv tie num den * den) + den ∧
      2 * (roundDiv tie num den * den) ≤ 2 * num + den := by
  have hdiv := Nat.div_add_mod' num den
  have hrest := Nat.mod_lt num pos
  rw [roundDiv]
  split
  · next up =>
    have hhalf : den ≤ 2 * (num % den) := by
      by_contra hless
      rw [Tie.roundsUp, Nat.compare_eq_lt.mpr (Nat.lt_of_not_le hless)] at up
      cases up
    have hnext : (num / den + 1) * den = num / den * den + den := Nat.succ_mul _ _
    omega
  · next down =>
    have hhalf : 2 * (num % den) ≤ den := by
      by_contra hmore
      rw [Tie.roundsUp, Nat.compare_eq_gt.mpr (Nat.lt_of_not_le hmore)] at down
      exact down rfl
    omega

/-! ## Powers of ten -/

theorem descale_ten (unit : Int) :
    0 < (descale 10 1 1 unit).1 ∧ 0 < (descale 10 1 1 unit).2 ∧
      ((descale 10 1 1 unit).2 : ℚ) = 10 ^ unit * (descale 10 1 1 unit).1 := by
  rw [descale]
  split
  · next up =>
    obtain ⟨n, rfl⟩ := Int.eq_ofNat_of_zero_le up
    refine ⟨Nat.one_pos, by simp, by simp⟩
  · next down =>
    obtain ⟨n, hn⟩ := Int.eq_ofNat_of_zero_le (Int.neg_nonneg_of_nonpos (Int.le_of_not_le down))
    obtain rfl : unit = -(n : Int) := by omega
    refine ⟨by simp, Nat.one_pos, by simp⟩

/-- The first digit of a fraction does not stand higher than the fraction. -/
theorem pow_decimalExponent_le {num den : Nat} (hnum : 0 < num) (hden : 0 < den) :
    (10 : ℚ) ^ decimalExponent num den * den ≤ num := by
  rw [decimalExponent]
  split
  · next whole =>
    have hpos : 0 < num / den := Nat.div_pos whole hden
    have hlow := pow_length_digitsOf_le hpos
    have hlength := List.length_pos_of_ne_nil (digitsOf_ne_nil (num / den))
    have hexponent : ((digitsOf (num / den)).length : Int) - 1 =
      (((digitsOf (num / den)).length - 1 : Nat) : Int) := by omega
    rw [hexponent, zpow_natCast]
    have hmul : 10 ^ ((digitsOf (num / den)).length - 1) * den ≤ num :=
      (Nat.mul_le_mul_right den hlow).trans (Nat.div_mul_le_self num den)
    exact_mod_cast hmul
  · next small =>
    have hpos : 0 < den / num := Nat.div_pos (by omega) hnum
    dsimp only
    -- Counting the digits of the reciprocal is exact only where it is a power of ten.
    split
    · next reached =>
      have hcast : (den : ℚ) ≤ num * 10 ^ ((digitsOf (den / num)).length - 1) := by
        exact_mod_cast reached
      rw [zpow_neg, zpow_natCast, inv_mul_le_iff₀ (by positivity), mul_comm]
      exact hcast
    · have hbelow := lt_pow_length_digitsOf (den / num)
      have hlength := List.length_pos_of_ne_nil (digitsOf_ne_nil (den / num))
      rw [Nat.div_lt_iff_lt_mul hnum] at hbelow
      have hcast : (den : ℚ) ≤ 10 ^ (digitsOf (den / num)).length * num := by
        exact_mod_cast hbelow.le
      have hexponent : -((((digitsOf (den / num)).length - 1 : Nat) : Int) + 1) =
        -((digitsOf (den / num)).length : Int) := by omega
      rw [hexponent, zpow_neg, zpow_natCast, inv_mul_le_iff₀ (by positivity)]
      exact hcast

/-- Sixteen places below the first digit, the unit is less than `10 ^ -16` of the value. -/
theorem unit_mul_le {value den : Nat} {exponent : Int} (h : (10 : ℚ) ^ exponent * den ≤ value) :
    (descale 10 1 1 (exponent - 16)).2 * 10 ^ 16 * den ≤
      value * (descale 10 1 1 (exponent - 16)).1 := by
  obtain ⟨-, -, hgrid⟩ := descale_ten (exponent - 16)
  generalize (descale 10 1 1 (exponent - 16)).1 = bottom at *
  generalize (descale 10 1 1 (exponent - 16)).2 = top at *
  have hpow : (10 : ℚ) ^ (exponent - 16) * 10 ^ 16 = 10 ^ exponent := by
    rw [← zpow_natCast, ← zpow_add₀ (by norm_num)]
    norm_num
  have hcast : (top : ℚ) * 10 ^ 16 * den ≤ value * bottom := by
    calc (top : ℚ) * 10 ^ 16 * (den : ℚ)
        = (10 : ℚ) ^ (exponent - 16) * 10 ^ 16 * (den : ℚ) * (bottom : ℚ) := by
          rw [hgrid]
          ring
      _ ≤ (value : ℚ) * (bottom : ℚ) := by
          rw [hpow]
          exact mul_le_mul_of_nonneg_right h (Nat.cast_nonneg bottom)
  exact_mod_cast hcast

/-! ## The search -/

namespace Neighbourhood

variable {hood : Neighbourhood} {tie : Tie} {unit : Int} {point : Nat}

theorem holds_of_hit (h : hood.hit tie unit = some point) :
    hood.holds point (descale 10 1 1 unit).2 (descale 10 1 1 unit).1 = true := by
  have either : ∀ nearer farther : Nat,
      (if hood.holds nearer (descale 10 1 1 unit).2 (descale 10 1 1 unit).1 then some nearer
        else if hood.holds farther (descale 10 1 1 unit).2 (descale 10 1 1 unit).1 then some farther
        else none) = some point →
      hood.holds point (descale 10 1 1 unit).2 (descale 10 1 1 unit).1 = true := by
    intro nearer farther h
    split at h
    · next hnearer =>
      cases h
      exact hnearer
    · split at h
      · next hfarther =>
        cases h
        exact hfarther
      · cases h
  exact either _ _ h

theorem pos_of_holds {num den : Nat} (hlow : 0 < hood.low) (hden : 0 < den)
    (h : hood.holds point num den = true) : 0 < point := by
  have hleft : 0 < hood.low * den := Nat.mul_pos hlow hden
  rcases Nat.eq_zero_or_pos point with rfl | hpos
  · rw [holds] at h
    simp only [Nat.zero_mul] at h
    split at h
    · simp at h
      omega
    · simp at h
  · exact hpos

/-- Where the unit is less than the room on either side, the nearest point will do. -/
theorem hit_of_fine (hden : 0 < hood.den)
    (below : 2 * (hood.low * (descale 10 1 1 unit).1) + hood.den * (descale 10 1 1 unit).2 <
      2 * (hood.value * (descale 10 1 1 unit).1))
    (above : 2 * (hood.value * (descale 10 1 1 unit).1) + hood.den * (descale 10 1 1 unit).2 <
      2 * (hood.high * (descale 10 1 1 unit).1)) :
    ∃ point, hood.hit tie unit = some point := by
  obtain ⟨-, hnum, -⟩ := descale_ten unit
  have hnear := two_mul_roundDiv tie (hood.value * (descale 10 1 1 unit).1)
    (Nat.mul_pos hden hnum)
  have hholds : hood.holds (roundDiv tie (hood.value * (descale 10 1 1 unit).1)
      (hood.den * (descale 10 1 1 unit).2)) (descale 10 1 1 unit).2 (descale 10 1 1 unit).1 =
      true := by
    rw [holds, Nat.mul_assoc, Nat.mul_comm (descale 10 1 1 unit).2]
    simp only [Bool.ite_eq_true_distrib, Bool.and_eq_true, decide_eq_true_eq]
    split
    · omega
    · omega
  exact ⟨_, if_pos hholds⟩

/-- If one of the grids to come has a hit, then the search ends with one. -/
theorem search_hit {exponent : Int} {fuel count : Nat} (h : ∃ ahead < fuel,
      ∃ point, hood.hit tie (exponent + 1 - (count + ahead : Nat)) = some point) :
    hood.hit tie (hood.search tie exponent fuel count).2 =
      some (hood.search tie exponent fuel count).1 := by
  induction fuel generalizing count with
  | zero =>
    obtain ⟨ahead, hahead, -⟩ := h
    exact absurd hahead (Nat.not_lt_zero ahead)
  | succ fuel ih =>
    simp only [search]
    cases hnow : hood.hit tie (exponent + 1 - count) with
    | some point => exact hnow
    | none =>
      obtain ⟨ahead, hahead, point, hpoint⟩ := h
      cases ahead with
      | zero =>
        rw [Nat.add_zero, hnow] at hpoint
        cases hpoint
      | succ ahead =>
        refine ih ⟨ahead, Nat.lt_of_succ_lt_succ hahead, point, ?_⟩
        rw [Nat.add_assoc, Nat.add_comm 1]
        exact hpoint

/-! ## Binary formats -/

variable {F : Format} {significand : Nat}

theorem descale_two (power : Int) :
    0 < (descale 2 1 4 power).1 ∧ 0 < (descale 2 1 4 power).2 := by
  rw [descale]
  split
  · exact ⟨Nat.one_pos, by simp⟩
  · exact ⟨by simp, show 0 < 4 by decide⟩

theorem low_ofBinary_pos (power : Int) (pos : 0 < significand) :
    0 < (ofBinary F significand power).low := by
  have hscale := (descale_two (-power)).1
  simp only [ofBinary]
  refine Nat.mul_pos ?_ hscale
  split <;> omega

/-- Half the room of a significand, in quarters of a unit in the last place. -/
def roomBelow (F : Format) (significand : Nat) (power : Int) : Nat :=
  if significand == Nat.pow 2 F.fraction && F.least < power then 1 else 2

theorem lt_roomBelow (power : Int) (small : F.fraction ≤ 52)
    (below : significand < 2 ^ (F.fraction + 1)) :
    4 * significand < 2 * roomBelow F significand power * 10 ^ 16 := by
  have hpow : 2 ^ F.fraction ≤ 2 ^ 52 := Nat.pow_le_pow_right (by decide) small
  rw [Nat.pow_succ] at below
  rw [roomBelow]
  split
  · next narrow =>
    rw [Bool.and_eq_true, beq_iff_eq] at narrow
    have hsignificand : significand = 2 ^ F.fraction := narrow.1
    omega
  · omega

/-- A grid of `10 ^ -16` of the value is finer than the format. -/
theorem ofBinary_fine (power : Int) (small : F.fraction ≤ 52)
    (below : significand < 2 ^ (F.fraction + 1))
    (pos : 0 < significand) {num den : Nat} (hden : 0 < den)
    (fine : num * 10 ^ 16 * (ofBinary F significand power).den ≤
      (ofBinary F significand power).value * den) :
    2 * ((ofBinary F significand power).low * den) + (ofBinary F significand power).den * num <
        2 * ((ofBinary F significand power).value * den) ∧
      2 * ((ofBinary F significand power).value * den) + (ofBinary F significand power).den * num <
        2 * ((ofBinary F significand power).high * den) := by
  have hroom := lt_roomBelow power small below
  have hroom_le : roomBelow F significand power ≤ 2 := by
    rw [roomBelow]
    split <;> omega
  obtain ⟨hscale, -⟩ := descale_two (-power)
  change num * 10 ^ 16 * (descale 2 1 4 (-power)).2 ≤
    4 * significand * (descale 2 1 4 (-power)).1 * den at fine
  change 2 * ((4 * significand - roomBelow F significand power) * (descale 2 1 4 (-power)).1 * den) +
      (descale 2 1 4 (-power)).2 * num < 2 * (4 * significand * (descale 2 1 4 (-power)).1 * den) ∧
    2 * (4 * significand * (descale 2 1 4 (-power)).1 * den) + (descale 2 1 4 (-power)).2 * num <
      2 * ((4 * significand + 2) * (descale 2 1 4 (-power)).1 * den)
  generalize (descale 2 1 4 (-power)).1 = scale at *
  generalize (descale 2 1 4 (-power)).2 = bottom at *
  generalize roomBelow F significand power = room at *
  -- Everything is a multiple of `scale * den`, and the unit is less than `2 * room` of these.
  have hunit : bottom * num < 2 * room * (scale * den) := by
    refine Nat.lt_of_mul_lt_mul_right (a := 10 ^ 16) ?_
    calc bottom * num * 10 ^ 16 = num * 10 ^ 16 * bottom := by ring
      _ ≤ 4 * significand * (scale * den) := by rw [← Nat.mul_assoc]; exact fine
      _ < 2 * room * 10 ^ 16 * (scale * den) :=
          Nat.mul_lt_mul_of_pos_right hroom (Nat.mul_pos hscale hden)
      _ = 2 * room * (scale * den) * 10 ^ 16 := by ring
  have hlow : (4 * significand - room) * scale * den + room * (scale * den) =
      4 * significand * scale * den := by
    rw [Nat.mul_assoc, ← Nat.add_mul, Nat.sub_add_cancel (by omega), ← Nat.mul_assoc]
  have hhigh : (4 * significand + 2) * scale * den =
      4 * significand * scale * den + 2 * (scale * den) := by ring
  have hwide : 2 * room * (scale * den) ≤ 4 * (scale * den) :=
    Nat.mul_le_mul_right _ (by omega)
  have htwice : 2 * room * (scale * den) = 2 * (room * (scale * den)) := Nat.mul_assoc ..
  constructor
  · omega
  · omega

theorem search_holds (tie : Tie) (power : Int) (small : F.fraction ≤ 52)
    (below : significand < 2 ^ (F.fraction + 1)) (pos : 0 < significand) :
    (ofBinary F significand power).hit tie
        ((ofBinary F significand power).search tie (decimalExponent
          (ofBinary F significand power).value (ofBinary F significand power).den) mostDigits 1).2 =
      some ((ofBinary F significand power).search tie (decimalExponent
        (ofBinary F significand power).value (ofBinary F significand power).den) mostDigits 1).1 := by
  obtain ⟨hscale, hden⟩ := descale_two (-power)
  have hvalue : 0 < (ofBinary F significand power).value :=
    Nat.mul_pos (Nat.mul_pos (by decide) pos) hscale
  have hexponent := pow_decimalExponent_le hvalue hden
  refine search_hit ⟨16, by decide, ?_⟩
  have hunit : decimalExponent (ofBinary F significand power).value
      (ofBinary F significand power).den + 1 - (1 + 16 : Nat) =
      decimalExponent (ofBinary F significand power).value
        (ofBinary F significand power).den - 16 := by omega
  rw [hunit]
  obtain ⟨hbelow, habove⟩ := ofBinary_fine power small below pos
    (descale_ten _).1 (unit_mul_le hexponent)
  exact hit_of_fine hden hbelow habove

end Neighbourhood

/-- The shortest digits of a positive value are digits, and the first is not zero. -/
theorem shortest_digits {F : Format} {significand : Nat} (tie : Tie) (power : Int)
    (small : F.fraction ≤ 52) (below : significand < 2 ^ (F.fraction + 1))
    (pos : 0 < significand) :
    (∃ first rest, (shortest F tie significand power).digits = first :: rest ∧ first ≠ '0') ∧
      ∀ c ∈ (shortest F tie significand power).digits, c.isDigit = true := by
  have hhit := Neighbourhood.search_holds tie power small below pos
  have hpoint := Neighbourhood.pos_of_holds (Neighbourhood.low_ofBinary_pos power pos)
    (descale_ten _).1 (Neighbourhood.holds_of_hit hhit)
  exact ⟨exists_trimZeros_digitsOf hpoint, fun c hc =>
    isDigit_of_mem_digitsOf (mem_of_mem_trimZeros hc)⟩

end Vivarium.Number
