import Vivarium.Json.Literal
import Mathlib.Data.List.DropRight
import Mathlib.Tactic

/-!
# The digits of a number

Writing a natural number and reading its digits gives the number back. The
first digit is a zero for zero alone, so no number has two ways to be written,
and of a positive number something is left when the zeros at the end go.
-/

namespace Vivarium.Number

theorem natOfDigits_digitsOf (n : Nat) : Json.natOfDigits (digitsOf n) = n := by
  have h : Nat.ofDigitChars 10 (digitsOf n) 0 = n :=
    Nat.ofDigitChars_toDigits (by decide) (by decide)
  rw [Nat.ofDigitChars_eq_foldl] at h
  exact h

theorem isDigit_of_mem_digitsOf {n : Nat} {c : Char} (h : c ∈ digitsOf n) : c.isDigit = true :=
  Nat.isDigit_of_mem_toDigits (by decide) (by decide) h

theorem digitsOf_ne_nil (n : Nat) : digitsOf n ≠ [] :=
  Nat.toDigits_ne_nil

theorem lt_pow_length_digitsOf (n : Nat) : n < 10 ^ (digitsOf n).length :=
  (Nat.length_toDigits_le_iff (by decide) (List.length_pos_of_ne_nil (digitsOf_ne_nil n))).mp
    (Nat.le_refl _)

theorem pow_length_digitsOf_le {n : Nat} (pos : 0 < n) :
    10 ^ ((digitsOf n).length - 1) ≤ n := by
  by_contra h
  rcases Nat.eq_zero_or_pos ((digitsOf n).length - 1) with hzero | hpos
  · rw [hzero] at h
    omega
  · have hshort : (digitsOf n).length ≤ (digitsOf n).length - 1 :=
      (Nat.length_toDigits_le_iff (by decide) hpos).mpr (Nat.lt_of_not_le h)
    have := List.length_pos_of_ne_nil (digitsOf_ne_nil n)
    omega

theorem head?_digitsOf_ne_zero {n : Nat} (pos : 0 < n) : (digitsOf n).head? ≠ some '0' := by
  induction n using Nat.strongRecOn with
  | _ n ih =>
    rw [digitsOf, Nat.toDigits_eq_if (by decide)]
    split
    · next small =>
      interval_cases n <;> decide
    · next large =>
      have hrest := ih (n / 10) (by omega) (by omega)
      show (digitsOf (n / 10) ++ _).head? ≠ _
      rw [List.head?_append_of_ne_nil _ (digitsOf_ne_nil (n / 10))]
      exact hrest

theorem mem_of_mem_trimZeros {digits : List Char} {c : Char} (h : c ∈ trimZeros digits) :
    c ∈ digits :=
  (List.rdropWhile_prefix _ _).subset h

theorem exists_trimZeros_digitsOf {n : Nat} (pos : 0 < n) :
    ∃ first rest, trimZeros (digitsOf n) = first :: rest ∧ first ≠ '0' := by
  have hhead := head?_digitsOf_ne_zero pos
  have hprefix : trimZeros (digitsOf n) <+: digitsOf n := List.rdropWhile_prefix _ _
  cases htrim : trimZeros (digitsOf n) with
  | nil =>
    have hall : ∀ c ∈ digitsOf n, (c == '0') = true := List.rdropWhile_eq_nil_iff.mp htrim
    cases hdigits : digitsOf n with
    | nil => exact absurd hdigits (digitsOf_ne_nil n)
    | cons first rest =>
      rw [hdigits] at hall hhead
      have hfirst := eq_of_beq (hall first List.mem_cons_self)
      exact absurd (congrArg some hfirst) hhead
  | cons first rest =>
    refine ⟨first, rest, rfl, ?_⟩
    intro hfirst
    rw [htrim] at hprefix
    obtain ⟨more, hmore⟩ := hprefix
    rw [← hmore, hfirst] at hhead
    exact hhead rfl

end Vivarium.Number
