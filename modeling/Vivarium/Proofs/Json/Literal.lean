import Vivarium.Json.Writer
import Vivarium.Proofs.Number.Shortest

/-!
# Numbers are read as they are written

A literal keeps the digits it was read with, so reading what was written has
only to find out where one part ends and the next begins: the whole at the
point, the fraction at the letter, the exponent where the digits stop. What the
writer makes of a natural number or of a binary value is of the form that the
reader insists on, with a digit before the point and no zero in front of
others.
-/

namespace Vivarium.Json

open Number

namespace Literal

/-- Whether a literal has the form that readers insist on. -/
structure WellFormed (l : Literal) : Prop where
  whole : l.whole = ['0'] ∨ ∃ first rest, l.whole = first :: rest ∧ first ≠ '0'
  wholeDigits : ∀ c ∈ l.whole, c.isDigit = true
  fractionDigits : ∀ c ∈ l.fraction, c.isDigit = true

/-! ## What is written -/

theorem ofNat_wellFormed (n : Nat) : (ofNat n).WellFormed where
  whole := by
    rcases Nat.eq_zero_or_pos n with rfl | pos
    · exact .inl (by decide)
    · right
      have hhead := head?_digitsOf_ne_zero pos
      cases hdigits : digitsOf n with
      | nil => exact absurd hdigits (digitsOf_ne_nil n)
      | cons first rest =>
        rw [hdigits] at hhead
        exact ⟨first, rest, hdigits, fun hfirst => hhead (congrArg some hfirst)⟩
  wholeDigits := fun _ hc => isDigit_of_mem_digitsOf hc
  fractionDigits := fun _ hc => absurd hc List.not_mem_nil

theorem ofScientific_wellFormed {range : Range} {negative : Bool} {s : Scientific}
    {first : Char} {rest : List Char} (hdigits : s.digits = first :: rest) (hfirst : first ≠ '0')
    (hall : ∀ c ∈ s.digits, c.isDigit = true) : (ofScientific range negative s).WellFormed := by
  have hzero : ∀ n, ∀ c ∈ List.replicate n '0', c.isDigit = true := by
    intro n c hc
    rw [List.eq_of_mem_replicate hc]
    decide
  rw [ofScientific]
  split
  · rw [Scientific.positional]
    by_cases small : s.exponent < 0
    · rw [if_pos small]
      refine ⟨.inl rfl, fun c hc => ?_, fun c hc => ?_⟩
      · rw [List.mem_singleton.mp hc]
        decide
      · have hc : c ∈ List.replicate (-s.exponent - 1).toNat '0' ++ s.digits := by
          simpa [hdigits] using hc
        rcases List.mem_append.mp hc with hc | hc
        · exact hzero _ c hc
        · exact hall c hc
    · rw [if_neg small]
      refine ⟨.inr ⟨first, rest.take s.exponent.toNat ++
        List.replicate (s.exponent.toNat + 1 - s.digits.length) '0', ?_, hfirst⟩,
        fun c hc => ?_, fun c hc => ?_⟩
      · simp [hdigits]
      · rcases List.mem_append.mp hc with hc | hc
        · exact hall c (List.mem_of_mem_take hc)
        · exact hzero _ c hc
      · dsimp only at hc
        split at hc
        · rw [List.mem_singleton.mp hc]
          decide
        · exact hall c (List.mem_of_mem_drop hc)
  · refine ⟨.inr ⟨first, [], ?_, hfirst⟩, fun c hc => hall c (List.mem_of_mem_take hc),
      fun c hc => hall c (List.mem_of_mem_drop hc)⟩
    simp [hdigits]

theorem ofDatum?_wellFormed {F : Format} {significand : Nat} (range : Range) (negative : Bool)
    (power : Int) (small : F.fraction ≤ 52) (below : significand < 2 ^ (F.fraction + 1)) :
    ∃ l, ofDatum? F range (.finite negative significand power) = some l ∧ l.WellFormed := by
  cases significand with
  | zero =>
    refine ⟨_, rfl, .inl rfl, fun c hc => ?_, fun c hc => ?_⟩ <;>
    · rw [List.mem_singleton.mp hc]
      decide
  | succ n =>
    obtain ⟨⟨first, rest, hdigits, hfirst⟩, hall⟩ :=
      shortest_digits .even power small below (Nat.succ_pos n)
    exact ⟨_, rfl, ofScientific_wellFormed hdigits hfirst hall⟩

theorem significand_lt {F : Format} {word : Nat} {negative : Bool} {significand : Nat}
    {power : Int} (h : F.decode word = .finite negative significand power) :
    significand < 2 ^ (F.fraction + 1) := by
  have hrest : word % Nat.pow 2 F.fraction < 2 ^ F.fraction :=
    Nat.mod_lt word (Nat.two_pow_pos F.fraction)
  have htwice : 2 ^ (F.fraction + 1) = 2 ^ F.fraction * 2 := Nat.pow_succ ..
  simp only [Format.decode] at h
  split at h
  · split at h <;> cases h
  · split at h
    · cases h
      omega
    · cases h
      show 2 ^ F.fraction + _ < _
      omega

end Literal

/-- A single is written as a number or, if it is none, as null. -/
theorem single_cases (x : Float32) :
    single x = .null ∨ ∃ l : Literal, single x = .number l ∧ l.WellFormed := by
  rw [single, ofSingle]
  cases hdatum : Format.single.decode x.toBits.toNat with
  | nan | infinite => exact .inl rfl
  | finite negative significand power =>
    obtain ⟨l, hl, wellFormed⟩ := Literal.ofDatum?_wellFormed Literal.singleRange negative power
      (by decide) (Literal.significand_lt hdatum)
    rw [hl]
    exact .inr ⟨l, rfl, wellFormed⟩

/-- A double is written as a number or, if it is none, as null. -/
theorem double_cases (x : Float) :
    double x = .null ∨ ∃ l : Literal, double x = .number l ∧ l.WellFormed := by
  rw [double, ofDouble]
  cases hdatum : Format.double.decode x.toBits.toNat with
  | nan | infinite => exact .inl rfl
  | finite negative significand power =>
    obtain ⟨l, hl, wellFormed⟩ := Literal.ofDatum?_wellFormed Literal.doubleRange negative power
      (by decide) (Literal.significand_lt hdatum)
    rw [hl]
    exact .inr ⟨l, rfl, wellFormed⟩

/-! ## What is read -/

/-- Whether a text does not go on with a digit. -/
def NoDigit (s : List Char) : Prop :=
  ∀ c, s.head? = some c → c.isDigit = false

/-- Whether a number that stands before a text is over. -/
def Over (s : List Char) : Prop :=
  ∀ c, s.head? = some c → c.isDigit = false ∧ c ≠ '.' ∧ c ≠ 'e' ∧ c ≠ 'E'

theorem Over.noDigit {s : List Char} (h : Over s) : NoDigit s :=
  fun c hc => (h c hc).1

theorem noDigit_cons {c : Char} (h : c.isDigit = false) (s : List Char) : NoDigit (c :: s) := by
  intro d hd
  cases hd
  exact h

variable {found rest : List Char}

theorem digits_append (hne : found ≠ []) (hall : ∀ c ∈ found, c.isDigit = true)
    (hrest : NoDigit rest) : digits (found ++ rest) = some (found, rest) := by
  have hstop : rest.takeWhile Char.isDigit = [] ∧ rest.dropWhile Char.isDigit = rest := by
    cases rest with
    | nil => exact ⟨rfl, rfl⟩
    | cons c rest =>
      have hc : ¬ c.isDigit = true := by simp [hrest c rfl]
      exact ⟨List.takeWhile_cons_of_neg hc, List.dropWhile_cons_of_neg hc⟩
  rw [digits, List.takeWhile_append_of_pos hall, List.dropWhile_append_of_pos hall, hstop.1,
    hstop.2, List.append_nil]
  cases found with
  | nil => exact absurd rfl hne
  | cons c found => rfl

theorem digits_digitsOf (n : Nat) (hrest : NoDigit rest) :
    digits (digitsOf n ++ rest) = some (digitsOf n, rest) :=
  digits_append (digitsOf_ne_nil n) (fun _ hc => isDigit_of_mem_digitsOf hc) hrest

theorem exponentPart_append (exponent : Option Int) (hrest : Over rest) :
    exponentPart (exponentText exponent ++ rest) = some (exponent, rest) := by
  cases exponent with
  | none =>
    rw [exponentText, List.nil_append]
    cases rest with
    | nil => rfl
    | cons c rest =>
      obtain ⟨-, -, he, hE⟩ := hrest c rfl
      rw [exponentPart]
      · intro tail h
        cases h
        exact he rfl
      · intro tail h
        cases h
        exact hE rfl
  | some n =>
    rw [exponentText]
    by_cases hneg : n < 0
    · have hn : -(n.natAbs : Int) = n := by omega
      simp only [if_pos hneg, List.cons_append, exponentPart, exponentDigits,
        digits_digitsOf n.natAbs hrest.noDigit, Option.map_some, natOfDigits_digitsOf, hn]
    · have hn : (n.natAbs : Int) = n := by omega
      simp only [if_neg hneg, List.cons_append, exponentPart, exponentDigits,
        digits_digitsOf n.natAbs hrest.noDigit, Option.map_some, natOfDigits_digitsOf, hn]

namespace Literal

variable {l : Literal}

/-- The point and the digits after it. -/
def fractionText (l : Literal) : List Char :=
  if l.fraction.isEmpty then [] else '.' :: l.fraction

theorem noDigit_exponentText (exponent : Option Int) (hrest : Over rest) :
    NoDigit (exponentText exponent ++ rest) := by
  cases exponent with
  | none => exact hrest.noDigit
  | some n => exact noDigit_cons (by decide) _

theorem WellFormed.fractionDigits_append (wellFormed : l.WellFormed) (hrest : Over rest) :
    Json.fractionDigits (l.fractionText ++ (exponentText l.exponent ++ rest)) =
      some (l.fraction, exponentText l.exponent ++ rest) := by
  have hnext := noDigit_exponentText l.exponent hrest
  have hall := wellFormed.fractionDigits
  rw [fractionText]
  cases hfraction : l.fraction with
  | nil =>
    simp only [List.isEmpty_nil, if_true, List.nil_append]
    have hpoint : ∀ tail, exponentText l.exponent ++ rest ≠ '.' :: tail := by
      intro tail h
      cases hexponent : l.exponent with
      | none =>
        rw [hexponent, exponentText, List.nil_append] at h
        rw [h] at hrest
        exact (hrest '.' rfl).2.1 rfl
      | some n =>
        rw [hexponent, exponentText] at h
        cases h
    rw [Json.fractionDigits]
    exact hpoint
  | cons first more =>
    rw [hfraction] at hall
    rw [if_neg (by simp), List.cons_append, Json.fractionDigits]
    exact digits_append (List.cons_ne_nil _ _) hall hnext

theorem WellFormed.wholeDigits_append (wellFormed : l.WellFormed) (hrest : NoDigit rest) :
    Json.wholeDigits (l.whole ++ rest) = some (l.whole, rest) := by
  have hne : l.whole ≠ [] := by
    rcases wellFormed.whole with h | ⟨first, more, h, -⟩
    · simp [h]
    · simp [h]
  rw [Json.wholeDigits, digits_append hne wellFormed.wholeDigits hrest]
  rcases wellFormed.whole with h | ⟨first, more, h, hfirst⟩
  · rw [h]
    rfl
  · rw [h]
    split
    · next hzero =>
      cases hzero
      exact absurd rfl hfirst
    · rfl

theorem WellFormed.unsigned_append (wellFormed : l.WellFormed) (hrest : Over rest) :
    unsigned l.negative (l.whole ++ (l.fractionText ++ (exponentText l.exponent ++ rest))) =
      some (l, rest) := by
  have hnext : NoDigit (l.fractionText ++ (exponentText l.exponent ++ rest)) := by
    rw [fractionText]
    split
    · exact noDigit_exponentText l.exponent hrest
    · exact noDigit_cons (by decide) _
  simp only [unsigned, wellFormed.wholeDigits_append hnext, Option.bind_eq_bind, Option.bind_some,
    wellFormed.fractionDigits_append hrest, exponentPart_append l.exponent hrest]
  rfl

theorem WellFormed.numeral_append (wellFormed : l.WellFormed) (hrest : Over rest) :
    numeral (l.chars ++ rest) = some (l, rest) := by
  have hunsigned := wellFormed.unsigned_append hrest
  have hchars : l.chars ++ rest = (if l.negative then ['-'] else []) ++
      (l.whole ++ (l.fractionText ++ (exponentText l.exponent ++ rest))) := by
    simp only [chars, fractionText, List.append_assoc]
  rw [hchars]
  cases hnegative : l.negative with
  | true =>
    rw [hnegative] at hunsigned
    exact hunsigned
  | false =>
    rw [hnegative] at hunsigned
    simp only [Bool.false_eq_true, if_false, List.nil_append]
    rw [numeral]
    · exact hunsigned
    · intro tail h
      have hfirst : '-' ∈ l.whole := by
        rcases wellFormed.whole with hwhole | ⟨first, more, hwhole, -⟩
        · rw [hwhole] at h
          cases h
        · rw [hwhole] at h ⊢
          cases h
          exact List.mem_cons_self
      have := wellFormed.wholeDigits '-' hfirst
      revert this
      decide

end Literal

end Vivarium.Json
