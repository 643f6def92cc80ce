import Vivarium.Proofs.Json.Literal
import Vivarium.Proofs.Json.Strings

/-!
# Tokens are read as they are written

A token written in front of others is found again, and the rest is left as it
was. Only numbers need something to end them, and whatever is not a number
does. So tokens of which no two numbers stand side by side come back from their
characters.
-/

namespace Vivarium.Json

namespace Token

/-- Whether a token can be read once it is written. -/
def Writable : Token → Prop
  | .number l => l.WellFormed
  | .string text => text.isSome = true
  | _ => True

/-- Whether a token is a number. -/
def isNumber : Token → Bool
  | .number _ => true
  | _ => false

/-- Whether of two tokens side by side one is not a number. -/
def Apart (left right : Token) : Prop :=
  left.isNumber = true → right.isNumber = false

variable {token : Token} {rest : List Char}

theorem exists_wellFormed_cons {l : Literal} (wellFormed : l.WellFormed) :
    ∃ c more, l.chars = c :: more ∧ (c = '-' ∨ c.isDigit = true) := by
  have hwhole : ∃ c more, l.whole = c :: more ∧ c.isDigit = true := by
    have hall := wellFormed.wholeDigits
    rcases wellFormed.whole with h | ⟨c, more, h, -⟩
    · exact ⟨'0', [], h, by decide⟩
    · rw [h] at hall
      exact ⟨c, more, h, hall c List.mem_cons_self⟩
  obtain ⟨c, more, hcons, hdigit⟩ := hwhole
  cases hnegative : l.negative with
  | true => exact ⟨'-', _, by rw [Literal.chars, hnegative]; rfl, .inl rfl⟩
  | false => exact ⟨c, _, by rw [Literal.chars, hnegative, hcons]; rfl, .inr hdigit⟩

theorem isGap_of_isDigit {c : Char} (h : c.isDigit = true) : isGap c = false := by
  have hne : ∀ d : Char, d.isDigit = false → (c == d) = false := by
    intro d hd
    refine beq_eq_false_iff_ne.mpr ?_
    rintro rfl
    rw [h] at hd
    cases hd
  simp [isGap, hne ' ' rfl, hne '\n' rfl, hne '\t' rfl, hne '\r' rfl]

/-- A token starts with a character that is no gap. -/
theorem exists_chars_cons (writable : token.Writable) :
    ∃ c more, token.chars = c :: more ∧ isGap c = false := by
  cases token with
  | number l =>
    obtain ⟨c, more, hcons, hc⟩ := exists_wellFormed_cons writable
    refine ⟨c, more, hcons, ?_⟩
    rcases hc with rfl | hdigit
    · decide
    · exact isGap_of_isDigit hdigit
  | bool b => cases b <;> exact ⟨_, _, rfl, by decide⟩
  | openArray | closeArray | openObject | closeObject | comma | colon | null | string =>
    exact ⟨_, _, rfl, by decide⟩

theorem read_number {l : Literal} (wellFormed : l.WellFormed) (hrest : Over rest) :
    read (l.chars ++ rest) = some (.number l, rest) := by
  have hnumeral := wellFormed.numeral_append hrest
  obtain ⟨c, more, hcons, hc⟩ := exists_wellFormed_cons wellFormed
  rw [hcons] at hnumeral ⊢
  rw [List.cons_append] at hnumeral ⊢
  unfold read
  split
  iterate 10
    · next hstart =>
      obtain ⟨rfl, -⟩ := List.cons.inj hstart
      exact absurd hc (by decide)
  · rw [hnumeral]
    rfl

theorem read_chars (writable : token.Writable) (hrest : token.isNumber = true → Over rest) :
    read (token.chars ++ rest) = some (token, rest) := by
  cases token with
  | number l => exact read_number writable (hrest rfl)
  | string text =>
    obtain ⟨s, rfl⟩ := Option.isSome_iff_exists.mp writable
    obtain ⟨inside, hinside, hquoted⟩ := quoted_quote s rest
    show read (quote s ++ rest) = _
    rw [hinside, read, hquoted]
    rfl
  | bool b => cases b <;> rfl
  | openArray | closeArray | openObject | closeObject | comma | colon | null => rfl

/-- Whatever is not a number ends one. -/
theorem over_chars (writable : token.Writable) (hother : token.isNumber = false) :
    Over (token.chars ++ rest) := by
  intro c hc
  cases token with
  | number l => cases hother
  | bool b => cases b <;> cases hc <;> decide
  | openArray | closeArray | openObject | closeObject | comma | colon | null | string =>
    cases hc
    decide

theorem over_flatMap {tokens : List Token} (writable : ∀ t ∈ tokens, t.Writable)
    (hother : ∀ t, tokens.head? = some t → t.isNumber = false) :
    Over (tokens.flatMap chars) := by
  cases tokens with
  | nil =>
    intro c hc
    cases hc
  | cons token tokens =>
    exact over_chars (writable token List.mem_cons_self) (hother token rfl)

theorem scan_flatMap {tokens : List Token} (writable : ∀ t ∈ tokens, t.Writable)
    (apart : tokens.IsChain Apart) {fuel : Nat}
    (enough : (tokens.flatMap chars).length ≤ fuel) :
    scan fuel (tokens.flatMap chars) = some tokens := by
  induction tokens generalizing fuel with
  | nil => cases fuel <;> rfl
  | cons token tokens ih =>
    have hwritable := writable token List.mem_cons_self
    have hmore : ∀ t ∈ tokens, t.Writable := fun t ht => writable t (List.mem_cons_of_mem _ ht)
    obtain ⟨c, more, hcons, hgap⟩ := exists_chars_cons hwritable
    have hread : read (token.chars ++ tokens.flatMap chars) =
        some (token, tokens.flatMap chars) := by
      refine read_chars hwritable fun hnumber => over_flatMap hmore fun next hnext => ?_
      exact (List.isChain_cons.mp apart).1 next hnext hnumber
    rw [List.flatMap_cons] at enough ⊢
    rw [hcons, List.cons_append] at enough hread ⊢
    cases fuel with
    | zero => exact absurd enough (Nat.not_succ_le_zero _)
    | succ fuel =>
      rw [List.length_cons, List.length_append] at enough
      have hfuel : (tokens.flatMap chars).length ≤ fuel := by omega
      have hrest := ih hmore (List.isChain_cons.mp apart).2 hfuel
      rw [scan]
      simp only [hgap, hread, hrest]
      rfl

/-! ## What is not in a text -/

theorem le_of_isDigit {c : Char} (h : c.isDigit = true) : ' ' ≤ c := by
  rw [Char.isDigit, Bool.and_eq_true, decide_eq_true_eq, decide_eq_true_eq] at h
  exact Char.le_trans (by decide) h.1

theorem le_of_mem_exponentText {exponent : Option Int} {d : Char}
    (h : d ∈ exponentText exponent) : ' ' ≤ d := by
  cases exponent with
  | none => cases h
  | some n =>
    rw [exponentText, List.mem_cons, List.mem_cons] at h
    rcases h with rfl | rfl | h
    · decide
    · split <;> decide
    · exact le_of_isDigit (Number.isDigit_of_mem_digitsOf h)

theorem le_of_mem_literal {l : Literal} (wellFormed : l.WellFormed) {d : Char}
    (h : d ∈ l.chars) : ' ' ≤ d := by
  rw [Literal.chars, List.mem_append, List.mem_append, List.mem_append] at h
  rcases h with ((h | h) | h) | h
  · split at h
    · rw [List.mem_singleton.mp h]
      decide
    · cases h
  · exact le_of_isDigit (wellFormed.wholeDigits d h)
  · split at h
    · cases h
    · rcases List.mem_cons.mp h with rfl | h
      · decide
      · exact le_of_isDigit (wellFormed.fractionDigits d h)
  · exact le_of_mem_exponentText h

/-- No control character is written. -/
theorem le_of_mem_chars (writable : token.Writable) {d : Char} (h : d ∈ token.chars) :
    ' ' ≤ d := by
  cases token with
  | number l => exact le_of_mem_literal writable h
  | string text => exact le_of_mem_quote h
  | bool b => cases b <;> exact le_of_all (by decide) h
  | openArray | closeArray | openObject | closeObject | comma | colon | null =>
    exact le_of_all (by decide) h

end Token

end Vivarium.Json
