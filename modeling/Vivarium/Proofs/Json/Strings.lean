import Vivarium.Json.Writer
import Mathlib.Tactic

/-!
# Strings are read as they are written

Every character is written as one piece: as it is, as an escape of one letter,
or as the unit of a control character. The pieces come back one by one, a quote
inside of a string never ends it, and no unit that is written is half of a
character. What is written between the quotes holds no control character.
-/

namespace Vivarium.Json

/-- The piece that a character is read back as. -/
def pieceOf (c : Char) : Piece :=
  if (escape c).length = 6 then .unit c.toNat else .char c

theorem unitOf?_hexDigit : ∀ n < 32,
    unitOf? '0' '0' (hexDigit (n / 16)) (hexDigit (n % 16)) = some n := by
  decide

variable {c : Char} {seen : List Piece} {rest : List Char}

theorem pieces_escape (c : Char) (seen : List Piece) (rest : List Char) :
    pieces seen (escape c ++ rest) = pieces (pieceOf c :: seen) rest := by
  rw [pieceOf]
  unfold escape
  split
  · rfl
  · rfl
  · rfl
  · rfl
  · rfl
  · rfl
  · rfl
  · next hquote hbackslash _ _ _ _ _ =>
    split
    · next control =>
      have hsmall : c.toNat < 32 := control
      have hunit := unitOf?_hexDigit c.toNat hsmall
      simp [pieces, hunit]
    · next shown =>
      rw [List.singleton_append, pieces]
      · simp [shown]
      · exact hquote
      · intro _ _ _ _ _ h
        exact absurd h hbackslash
      · intro _ _ h
        exact absurd h hbackslash

theorem pieces_flatMap_escape (chars : List Char) (seen : List Piece) (rest : List Char) :
    pieces seen (chars.flatMap escape ++ '"' :: rest) =
      some (seen.reverse ++ chars.map pieceOf, rest) := by
  induction chars generalizing seen with
  | nil =>
    rw [List.flatMap_nil, List.nil_append, pieces, List.map_nil, List.append_nil]
  | cons c chars ih =>
    rw [List.flatMap_cons, List.append_assoc, pieces_escape, ih, List.reverse_cons,
      List.append_assoc]
    rfl

theorem join_cons_pieceOf (c : Char) (found : List Piece) :
    join (pieceOf c :: found) = (join found).map (c :: ·) := by
  rw [pieceOf]
  split
  · next long =>
    have hsmall : c.toNat < 32 := by
      unfold escape at long
      split at long
      iterate 7
        · exact absurd long (by decide)
      · split at long
        · next control => exact control
        · exact absurd long (by simp)
    have hhigh : isHigh c.toNat = false := by simp [isHigh]; omega
    have hlow : isLow c.toNat = false := by simp [isLow]; omega
    have hchar : Char.ofNat c.toNat = c := Char.ofNat_toNat c
    cases found with
    | nil => simp [join, hhigh, hlow, hchar]
    | cons piece found =>
      cases piece with
      | char d => simp [join, hhigh, hlow, hchar]
      | unit n => simp [join, hhigh, hlow, hchar]
  · rfl

theorem join_map_pieceOf (chars : List Char) : join (chars.map pieceOf) = some chars := by
  induction chars with
  | nil => rfl
  | cons c chars ih => rw [List.map_cons, join_cons_pieceOf, ih, Option.map_some]

theorem quoted_quote (s : String) (rest : List Char) :
    ∃ inside, quote s ++ rest = '"' :: inside ∧ quoted inside = some (some s, rest) := by
  refine ⟨s.toList.flatMap escape ++ '"' :: rest, ?_, ?_⟩
  · rw [quote, List.cons_append, List.append_assoc]
    rfl
  · rw [quoted, pieces_flatMap_escape]
    simp [join_map_pieceOf]

theorem hexDigit_ge : ∀ n < 16, ' ' ≤ hexDigit n := by
  decide

theorem le_of_all {chars : List Char} (shown : chars.all (' ' ≤ ·) = true) {d : Char}
    (h : d ∈ chars) : ' ' ≤ d :=
  of_decide_eq_true (List.all_eq_true.mp shown d h)

/-- No control character is written between the quotes. -/
theorem le_of_mem_escape {c d : Char} (h : d ∈ escape c) : ' ' ≤ d := by
  unfold escape at h
  split at h
  iterate 7
    · exact le_of_all (by decide) h
  · split at h
    · next control =>
      have hsmall : c.toNat < 32 := control
      have hhex := hexDigit_ge (c.toNat / 16) (by omega)
      have hhex' := hexDigit_ge (c.toNat % 16) (by omega)
      simp only [List.mem_cons, List.not_mem_nil, or_false] at h
      rcases h with rfl | rfl | rfl | rfl | rfl | rfl
      · decide
      · decide
      · decide
      · decide
      · exact hhex
      · exact hhex'
    · next shown =>
      rw [List.mem_singleton.mp h]
      exact Char.not_lt.mp shown

theorem le_of_mem_quote {s : String} {d : Char} (h : d ∈ quote s) : ' ' ≤ d := by
  rw [quote, List.mem_cons, List.mem_append, List.mem_flatMap, List.mem_singleton] at h
  rcases h with rfl | ⟨c, -, hd⟩ | rfl
  · decide
  · exact le_of_mem_escape hd
  · decide

end Vivarium.Json
