import Vivarium.Time.Timestamp
import Vivarium.Proofs.Json.Literal
import Vivarium.Proofs.Time.Calendar

/-!
# Timestamps are read as they are written

A timestamp is written with two digits for everything but the year and the
fraction of a second, and with marks in between that are no digits. So each
number that is read ends where it was written to end, and the moment is put
together from the same date and the same time of day. The fraction loses
nothing: it is cut short only where zeros follow. A leap second is written as
the sixtieth and so is known again.
-/

namespace Vivarium

/-- Whether a timestamp is one that can be kept. -/
structure Timestamp.Representable (t : Timestamp) : Prop where
  year : keepsYear t.date.year = true
  second : t.second < daySeconds
  nano : t.nano < nanos ∨ t.second % 60 = 59 ∧ t.nano < 2 * nanos

namespace Number

theorem length_digitsOf_le {n width : Nat} (pos : 0 < width) (h : n < 10 ^ width) :
    (digitsOf n).length ≤ width :=
  (Nat.length_toDigits_le_iff (by decide) pos).mpr h

theorem natOfDigits_replicate (zeros : Nat) (digits : List Char) :
    Json.natOfDigits (List.replicate zeros '0' ++ digits) = Json.natOfDigits digits := by
  induction zeros with
  | zero => rfl
  | succ zeros ih =>
    rw [← ih]
    rfl

theorem toList_padded (width n : Nat) : (padded width n).toList =
    List.replicate (width - (digitsOf n).length) '0' ++ digitsOf n := by
  rw [padded, String.toList_ofList]

/-- A number with zeros in front has digits only, stands for the number and is wide enough. -/
theorem padded_digits (width n : Nat) : (padded width n).toList ≠ [] ∧
    (∀ c ∈ (padded width n).toList, c.isDigit = true) ∧
    Json.natOfDigits (padded width n).toList = n := by
  rw [toList_padded]
  refine ⟨by simp [digitsOf_ne_nil], fun c hc => ?_, ?_⟩
  · rcases List.mem_append.mp hc with hc | hc
    · rw [List.eq_of_mem_replicate hc]
      decide
    · exact isDigit_of_mem_digitsOf hc
  · rw [natOfDigits_replicate, natOfDigits_digitsOf]

theorem length_padded (width : Nat) {n : Nat} (pos : 0 < width) (h : n < 10 ^ width) :
    (padded width n).toList.length = width := by
  have hlength := length_digitsOf_le pos h
  rw [toList_padded, List.length_append, List.length_replicate]
  omega

end Number

namespace Timestamp

open Number Text

/-! ## Numbers -/

theorem isBlank_of_isDigit {c : Char} (h : c.isDigit = true) : isBlank c = false := by
  rw [Char.isDigit, Bool.and_eq_true, decide_eq_true_eq, decide_eq_true_eq] at h
  have hlow : 48 ≤ c.toNat := UInt32.le_iff_toNat_le.mp h.1
  have hhigh : c.toNat ≤ 57 := UInt32.le_iff_toNat_le.mp h.2
  simp [isBlank, inRanges, blankRanges]
  omega

theorem number_append (most : Nat) {found : List Char} (rest : List Char) (hne : found ≠ [])
    (hall : ∀ c ∈ found, c.isDigit = true)
    (hends : found.length = most ∨ found.length ≤ most ∧ Json.NoDigit rest) :
    number most (found ++ rest) = some (Json.natOfDigits found, rest) := by
  have hstop : (rest.take (most - found.length)).takeWhile Char.isDigit = [] := by
    rcases hends with hfull | ⟨-, hrest⟩
    · rw [hfull, Nat.sub_self, List.take_zero, List.takeWhile_nil]
    · cases rest with
      | nil => rw [List.take_nil, List.takeWhile_nil]
      | cons c rest =>
        have hc : ¬ c.isDigit = true := by simp [hrest c rfl]
        cases most - found.length with
        | zero => rfl
        | succ n => rw [List.take_succ_cons, List.takeWhile_cons_of_neg hc]
  have htake : ((found ++ rest).take most).takeWhile Char.isDigit = found := by
    rw [List.take_append, List.take_of_length_le (by omega),
      List.takeWhile_append_of_pos hall, hstop, List.append_nil]
  rw [number, htake]
  cases found with
  | nil => exact absurd rfl hne
  | cons c found => simp

theorem skipBlanks_of_isDigit {found rest : List Char} (hne : found ≠ [])
    (hall : ∀ c ∈ found, c.isDigit = true) : skipBlanks (found ++ rest) = found ++ rest := by
  cases found with
  | nil => exact absurd rfl hne
  | cons c found =>
    have hc := isBlank_of_isDigit (hall c List.mem_cons_self)
    rw [skipBlanks, List.cons_append, List.dropWhile_cons_of_neg (by simp [hc])]

theorem field_padded {n : Nat} (small : n < 100) (rest : List Char) :
    field ((padded 2 n).toList ++ rest) = some (n, rest) := by
  obtain ⟨hne, hall, hvalue⟩ := padded_digits 2 n
  have hlength := length_padded 2 (by decide) small
  rw [field, skipBlanks_of_isDigit hne hall, number_append 2 rest hne hall (.inl hlength), hvalue]

theorem yearField_of_isDigit {c : Char} (hc : c.isDigit = true) (rest : List Char) :
    yearField (c :: rest) = (number 4 (c :: rest)).map fun (n, rest) => ((n : Int), rest) := by
  have hblank : skipBlanks (c :: rest) = c :: rest :=
    List.dropWhile_cons_of_neg (by simp [isBlank_of_isDigit hc])
  rw [yearField, hblank]
  split
  · next hstart =>
    obtain ⟨rfl, -⟩ := List.cons.inj hstart
    exact absurd hc (by decide)
  · next hstart =>
    obtain ⟨rfl, -⟩ := List.cons.inj hstart
    exact absurd hc (by decide)
  · rfl

theorem toList_minus : "-".toList = ['-'] :=
  rfl

theorem toList_plus : "+".toList = ['+'] :=
  rfl

theorem yearField_minus (rest : List Char) : yearField ('-' :: rest) =
    (number rest.length rest).map fun (n, rest) => (-(n : Int), rest) :=
  rfl

theorem yearField_plus (rest : List Char) : yearField ('+' :: rest) =
    (number rest.length rest).map fun (n, rest) => ((n : Int), rest) :=
  rfl

theorem yearField_yearText (year : Int) (rest : List Char) :
    yearField ((yearText year).toList ++ '-' :: rest) = some (year, '-' :: rest) := by
  have hends : Json.NoDigit ('-' :: rest) := Json.noDigit_cons (by decide) rest
  rw [yearText]
  split
  · next plain =>
    obtain ⟨n, rfl⟩ := Int.eq_ofNat_of_zero_le plain.1
    obtain ⟨hne, hall, hvalue⟩ := padded_digits 4 n
    have hlength := length_padded 4 (n := n) (by decide) (by omega)
    have hnumber := number_append 4 ('-' :: rest) hne hall (.inl hlength)
    rw [Int.toNat_natCast]
    rw [hvalue] at hnumber
    cases hdigits : (padded 4 n).toList with
    | nil => exact absurd hdigits hne
    | cons c more =>
      rw [hdigits] at hall hnumber
      rw [List.cons_append] at hnumber ⊢
      rw [yearField_of_isDigit (hall c List.mem_cons_self), hnumber]
      rfl
  · next signed =>
    obtain ⟨hne, hall, hvalue⟩ := padded_digits 4 year.natAbs
    -- Behind a sign any number of digits is read, up to the mark that ends them.
    have hnumber := number_append ((padded 4 year.natAbs).toList ++ '-' :: rest).length
      ('-' :: rest) hne hall (.inr ⟨by simp, hends⟩)
    rw [hvalue] at hnumber
    rw [String.toList_append, List.append_assoc]
    by_cases negative : year < 0
    · have hyear : -(year.natAbs : Int) = year := by omega
      rw [if_pos negative, toList_minus, List.singleton_append, yearField_minus, hnumber]
      exact congrArg (fun year => some (year, '-' :: rest)) hyear
    · have hyear : (year.natAbs : Int) = year := by omega
      rw [if_neg negative, toList_plus, List.singleton_append, yearField_plus, hnumber]
      exact congrArg (fun year => some (year, '-' :: rest)) hyear

/-! ## The fraction of a second -/

theorem fraction_padded (places : Nat) {n : Nat} (pos : 0 < places) (few : places ≤ 9)
    (small : n < 10 ^ places) :
    fraction ('.' :: ((padded places n).toList ++ ['Z'])) =
      some (n * 10 ^ (9 - places), ['Z']) := by
  obtain ⟨hne, hall, hvalue⟩ := padded_digits places n
  have hlength := length_padded places pos small
  have hends : Json.NoDigit ['Z'] := Json.noDigit_cons (by decide) []
  have hnumber := number_append 9 ['Z'] hne hall (.inr ⟨by omega, hends⟩)
  have hplaces : ((padded places n).toList ++ ['Z']).length - ['Z'].length = places := by
    rw [List.length_append, hlength, Nat.add_sub_cancel]
  rw [hvalue] at hnumber
  simp only [fraction, hnumber, Option.bind_eq_bind, Option.bind_some, hplaces]
  rfl

theorem toList_point (text : String) : ("." ++ text).toList = '.' :: text.toList := by
  have hpoint : ".".toList = ['.'] := rfl
  rw [String.toList_append, hpoint, List.singleton_append]

theorem fraction_fractionText {nano : Nat} (small : nano < nanos) :
    fraction ((fractionText nano).toList ++ ['Z']) = some (nano, ['Z']) := by
  rw [nanos] at small
  rw [fractionText]
  split
  · next zero =>
    rw [zero]
    rfl
  · split
    · next milli =>
      have hvalue : nano / 1000000 * 10 ^ (9 - 3) = nano := by omega
      rw [toList_point, List.cons_append, fraction_padded 3 (by decide) (by decide) (by omega),
        hvalue]
    · split
      · next micro =>
        have hvalue : nano / 1000 * 10 ^ (9 - 6) = nano := by omega
        rw [toList_point, List.cons_append, fraction_padded 6 (by decide) (by decide) (by omega),
          hvalue]
      · have hvalue : nano * 10 ^ (9 - 9) = nano := by omega
        rw [toList_point, List.cons_append, fraction_padded 9 (by decide) (by decide) (by omega),
          hvalue]

/-! ## A moment -/

theorem assemble_date {t : Timestamp} (representable : t.Representable) :
    assemble t.date (t.second / 3600) (t.second / 60 % 60) (t.second % 60 + t.nano / nanos)
      (t.nano % nanos) 0 = some t := by
  have hsecond : t.second < 86400 := representable.second
  obtain ⟨hleap, hsixty⟩ : (t.second % 60 + t.nano / nanos) / 60 = t.nano / nanos ∧
      t.second % 60 + t.nano / nanos ≤ 60 := by
    have hnano := representable.nano
    rw [nanos] at hnano ⊢
    omega
  have hyear := representable.year
  have hvalid : t.date.valid = true := Time.Date.ofDays_valid t.day
  have hdays : t.date.toDays = t.day := Time.Date.toDays_ofDays t.day
  have hclock : ((t.second / 3600 : Nat) : Int) * 3600 + (t.second / 60 % 60 : Nat) * 60 +
      ((t.second % 60 + t.nano / nanos - t.nano / nanos : Nat) : Int) - 0 = t.second := by omega
  have hday : t.day + (t.second : Int) / (86400 : Nat) = t.day := by omega
  have hrest : ((t.second : Int) % (86400 : Nat)).toNat = t.second := by omega
  have hnano : t.nano % nanos + t.nano / nanos * nanos = t.nano := Nat.mod_add_div' ..
  have hhour : t.second / 3600 < 24 := by omega
  have hminute : t.second / 60 % 60 < 60 := by omega
  simp only [assemble, hyear, hvalid, hhour, hminute, hsixty, hleap, hclock, hdays, daySeconds,
    hday, hrest, hnano]
  rfl

theorem toList_text (t : Timestamp) : t.text.toList =
    (yearText t.date.year).toList ++ '-' :: ((padded 2 t.date.month).toList ++
      '-' :: ((padded 2 t.date.day).toList ++ 'T' :: ((padded 2 (t.second / 3600)).toList ++
        ':' :: ((padded 2 (t.second / 60 % 60)).toList ++
          ':' :: ((padded 2 (t.second % 60 + t.nano / nanos)).toList ++
            ((fractionText (t.nano % nanos)).toList ++ ['Z'])))))) := by
  have hT : "T".toList = ['T'] := rfl
  have hcolon : ":".toList = [':'] := rfl
  have hZ : "Z".toList = ['Z'] := rfl
  simp only [text, String.toList_append, List.append_assoc, toList_minus, hT, hcolon, hZ,
    List.cons_append, List.nil_append]

theorem mark_hyphen (rest : List Char) : mark '-' ('-' :: rest) = some rest :=
  rfl

theorem mark_colon (rest : List Char) : mark ':' (':' :: rest) = some rest :=
  rfl

theorem date_small (t : Timestamp) : t.date.month < 100 ∧ t.date.day < 100 := by
  have hvalid : t.date.valid = true := Time.Date.ofDays_valid t.day
  simp only [Time.Date.valid, Bool.and_eq_true, decide_eq_true_eq] at hvalid
  have hlength : Time.monthDays t.date.year t.date.month ≤ 31 := by
    unfold Time.monthDays
    split
    iterate 4
      · decide
    · split <;> decide
    · decide
  omega

theorem read?_text {t : Timestamp} (representable : t.Representable) : read? t.text = some t := by
  have hsecond : t.second < 86400 := representable.second
  obtain ⟨hmonth, hday⟩ := date_small t
  have hhour : t.second / 3600 < 100 := by omega
  have hminute : t.second / 60 % 60 < 100 := by omega
  have hsixty : t.second % 60 + t.nano / nanos < 100 := by
    have hnano := representable.nano
    rw [nanos] at hnano ⊢
    omega
  have hfraction : fraction ((fractionText (t.nano % nanos)).toList ++ ['Z']) =
      some (t.nano % nanos, ['Z']) :=
    fraction_fractionText (Nat.mod_lt _ (by decide))
  have hseparator : ∀ rest, separator ('T' :: rest) = some rest := fun _ => rfl
  rw [read?, toList_text]
  refine Option.bind_eq_some_iff.mpr ⟨_, yearField_yearText _ _, ?_⟩
  refine Option.bind_eq_some_iff.mpr ⟨_, mark_hyphen _, ?_⟩
  refine Option.bind_eq_some_iff.mpr ⟨_, field_padded hmonth _, ?_⟩
  refine Option.bind_eq_some_iff.mpr ⟨_, mark_hyphen _, ?_⟩
  refine Option.bind_eq_some_iff.mpr ⟨_, field_padded hday _, ?_⟩
  refine Option.bind_eq_some_iff.mpr ⟨_, hseparator _, ?_⟩
  refine Option.bind_eq_some_iff.mpr ⟨_, field_padded hhour _, ?_⟩
  refine Option.bind_eq_some_iff.mpr ⟨_, mark_colon _, ?_⟩
  refine Option.bind_eq_some_iff.mpr ⟨_, field_padded hminute _, ?_⟩
  refine Option.bind_eq_some_iff.mpr ⟨_, mark_colon _, ?_⟩
  refine Option.bind_eq_some_iff.mpr ⟨_, field_padded hsixty _, ?_⟩
  refine Option.bind_eq_some_iff.mpr ⟨_, hfraction, ?_⟩
  exact assemble_date representable

end Timestamp

end Vivarium
