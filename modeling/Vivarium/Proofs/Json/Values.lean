import Vivarium.Json.Reader
import Vivarium.Proofs.Json.Tokens

/-!
# Values are read as they are written

A value whose numbers are well formed, whose strings have texts and which is
not nested too deeply comes back from its text. The reader is followed down
the value: from the tokens of a part, whatever comes after them, it makes the
part and leaves what comes after. A part and what ends it are more than one
token, so the fuel lasts.
-/

namespace Vivarium.Json

mutual

/-- Whether a value comes back from its text where so many more containers may open. -/
def Fits (room : Nat) : Json → Prop
  | .null => True
  | .bool _ => True
  | .number l => l.WellFormed
  | .string text => text.isSome = true
  | .array xs => 0 < room ∧ FitsItems (room - 1) xs
  | .object ms => 0 < room ∧ FitsMembers (room - 1) ms
  | .buried => False

/-- Whether items come back. -/
def FitsItems (room : Nat) : List Json → Prop
  | [] => True
  | x :: xs => Fits room x ∧ FitsItems room xs

/-- Whether members come back. -/
def FitsMembers (room : Nat) : List (Option String × Json) → Prop
  | [] => True
  | (key, x) :: ms => key.isSome = true ∧ Fits room x ∧ FitsMembers room ms

end

/-! ## The tokens of a value -/

mutual

theorem length_lt_tokens (rest : List Token) : ∀ j : Json, rest.length < (tokens rest j).length
  | .null | .bool _ | .number _ | .string _ | .buried => Nat.lt_succ_self _
  | .array xs => Nat.lt_succ_of_lt (length_lt_itemTokens rest xs)
  | .object ms => Nat.lt_succ_of_lt (length_lt_memberTokens rest ms)

theorem length_lt_itemTokens (rest : List Token) :
    ∀ xs : List Json, rest.length < (itemTokens rest xs).length
  | [] => Nat.lt_succ_self _
  | [x] => Nat.lt_of_succ_lt (length_lt_tokens (.closeArray :: rest) x)
  | x :: y :: xs => by
    have hrest := length_lt_itemTokens rest (y :: xs)
    have hitem := length_lt_tokens (.comma :: itemTokens rest (y :: xs)) x
    rw [List.length_cons] at hitem
    rw [itemTokens]
    omega

theorem length_lt_memberTokens (rest : List Token) :
    ∀ ms : List (Option String × Json), rest.length < (memberTokens rest ms).length
  | [] => Nat.lt_succ_self _
  | [(key, x)] => by
    have hvalue := length_lt_tokens (.closeObject :: rest) x
    simp only [memberTokens, List.length_cons] at hvalue ⊢
    omega
  | (key, x) :: m :: ms => by
    have hrest := length_lt_memberTokens rest (m :: ms)
    have hvalue := length_lt_tokens (.comma :: memberTokens rest (m :: ms)) x
    simp only [memberTokens, List.length_cons] at hvalue ⊢
    omega

end

/-- Whether tokens can be written in front of nothing, and a number in front of them. -/
structure Sendable (tokens : List Token) : Prop where
  writable : ∀ t ∈ tokens, t.Writable
  apart : tokens.IsChain Token.Apart
  ending : ∀ t, tokens.head? = some t → t.isNumber = false

theorem Sendable.cons {token : Token} {rest : List Token} (h : Sendable rest)
    (writable : token.Writable) : (∀ t ∈ token :: rest, t.Writable) ∧
      (token :: rest).IsChain Token.Apart :=
  ⟨List.forall_mem_cons.mpr ⟨writable, h.writable⟩,
    List.isChain_cons.mpr ⟨fun next hnext _ => h.ending next hnext, h.apart⟩⟩

theorem Sendable.mark (token : Token) {rest : List Token} (writable : ∀ t ∈ rest, t.Writable)
    (apart : rest.IsChain Token.Apart) (htoken : token.Writable)
    (hother : token.isNumber = false) : Sendable (token :: rest) where
  writable := List.forall_mem_cons.mpr ⟨htoken, writable⟩
  apart := by
    refine List.isChain_cons.mpr ⟨fun next _ hnumber => ?_, apart⟩
    rw [hother] at hnumber
    cases hnumber
  ending := by
    intro t ht
    cases ht
    exact hother

mutual

/-- The tokens of a value can be written before whatever ends a number. -/
theorem tokens_sendable {room : Nat} {rest : List Token} (hrest : Sendable rest) :
    ∀ j : Json, Fits room j →
      (∀ t ∈ tokens rest j, t.Writable) ∧ (tokens rest j).IsChain Token.Apart
  | .null, _ | .bool _, _ => hrest.cons trivial
  | .number _, fits => hrest.cons fits
  | .string _, fits => hrest.cons fits
  | .array xs, fits => by
    obtain ⟨writable, apart⟩ := itemTokens_sendable hrest xs fits.2
    have hall := Sendable.mark .openArray writable apart trivial rfl
    exact ⟨hall.writable, hall.apart⟩
  | .object ms, fits => by
    obtain ⟨writable, apart⟩ := memberTokens_sendable hrest ms fits.2
    have hall := Sendable.mark .openObject writable apart trivial rfl
    exact ⟨hall.writable, hall.apart⟩

theorem itemTokens_sendable {room : Nat} {rest : List Token} (hrest : Sendable rest) :
    ∀ xs : List Json, FitsItems room xs →
      (∀ t ∈ itemTokens rest xs, t.Writable) ∧ (itemTokens rest xs).IsChain Token.Apart
  | [], _ => hrest.cons trivial
  | [x], fits => tokens_sendable (.mark .closeArray hrest.writable hrest.apart trivial rfl) x fits.1
  | x :: y :: xs, fits => by
    obtain ⟨writable, apart⟩ := itemTokens_sendable hrest (y :: xs) fits.2
    exact tokens_sendable (.mark .comma writable apart trivial rfl) x fits.1

theorem memberTokens_sendable {room : Nat} {rest : List Token} (hrest : Sendable rest) :
    ∀ ms : List (Option String × Json), FitsMembers room ms →
      (∀ t ∈ memberTokens rest ms, t.Writable) ∧ (memberTokens rest ms).IsChain Token.Apart
  | [], _ => hrest.cons trivial
  | [(key, x)], fits => by
    obtain ⟨writable, apart⟩ :=
      tokens_sendable (.mark .closeObject hrest.writable hrest.apart trivial rfl) x
        fits.2.1
    have hcolon := Sendable.mark .colon writable apart trivial rfl
    have hkey := Sendable.mark (.string key) hcolon.writable hcolon.apart fits.1 rfl
    exact ⟨hkey.writable, hkey.apart⟩
  | (key, x) :: m :: ms, fits => by
    obtain ⟨writable, apart⟩ := memberTokens_sendable hrest (m :: ms) fits.2.2
    obtain ⟨writable, apart⟩ :=
      tokens_sendable (.mark .comma writable apart trivial rfl) x fits.2.1
    have hcolon := Sendable.mark .colon writable apart trivial rfl
    have hkey := Sendable.mark (.string key) hcolon.writable hcolon.apart fits.1 rfl
    exact ⟨hkey.writable, hkey.apart⟩

end

/-! ## Reading them -/

theorem value_openArray {fuel room : Nat} {found : List Token}
    (hfirst : found.head? ≠ some .closeArray) :
    value (fuel + 1) room (.openArray :: found) =
      (items fuel (room - 1) found).map fun (xs, rest) => (housed room (.array xs), rest) := by
  cases found with
  | nil => rfl
  | cons token found =>
    cases token with
    | closeArray => exact absurd rfl hfirst
    | _ => rfl

theorem value_openObject {fuel room : Nat} {found : List Token}
    (hfirst : found.head? ≠ some .closeObject) :
    value (fuel + 1) room (.openObject :: found) =
      (members fuel (room - 1) found).map fun (ms, rest) => (housed room (.object ms), rest) := by
  cases found with
  | nil => rfl
  | cons token found =>
    cases token with
    | closeObject => exact absurd rfl hfirst
    | _ => rfl

theorem housed_of_pos {room : Nat} (pos : 0 < room) (j : Json) : housed room j = j :=
  if_neg (Nat.ne_of_gt pos)

theorem head?_tokens (rest : List Token) (j : Json) :
    (tokens rest j).head? ≠ some .closeArray := by
  cases j <;> simp [tokens]

theorem head?_itemTokens (rest : List Token) (x : Json) (xs : List Json) :
    (itemTokens rest (x :: xs)).head? ≠ some .closeArray := by
  cases xs with
  | nil => exact head?_tokens _ x
  | cons y xs => exact head?_tokens _ x

theorem head?_memberTokens (rest : List Token) (m : Option String × Json)
    (ms : List (Option String × Json)) :
    (memberTokens rest (m :: ms)).head? ≠ some .closeObject := by
  obtain ⟨key, x⟩ := m
  cases ms <;> simp [memberTokens]

mutual

theorem value_tokens {room : Nat} (rest : List Token) :
    ∀ (j : Json) (fuel : Nat), Fits room j → 2 * (tokens rest j).length ≤ fuel + 1 →
      value fuel room (tokens rest j) = some (j, rest)
  | j, 0, _, enough => by
    have := length_lt_tokens rest j
    omega
  | .null, _ + 1, _, _ | .bool _, _ + 1, _, _ | .number _, _ + 1, _, _ | .string _, _ + 1, _, _ =>
    rfl
  | .array [], _ + 1, fits, _ => by
    rw [tokens, itemTokens, value, housed_of_pos fits.1]
  | .object [], _ + 1, fits, _ => by
    rw [tokens, memberTokens, value, housed_of_pos fits.1]
  | .array (x :: xs), fuel + 1, fits, enough => by
    rw [tokens, List.length_cons] at enough
    rw [tokens, value_openArray (head?_itemTokens rest x xs),
      items_itemTokens rest x xs fuel fits.2 (by omega)]
    exact congrArg (fun found => some (found, rest)) (housed_of_pos fits.1 _)
  | .object (m :: ms), fuel + 1, fits, enough => by
    rw [tokens, List.length_cons] at enough
    rw [tokens, value_openObject (head?_memberTokens rest m ms),
      members_memberTokens rest m ms fuel fits.2 (by omega)]
    exact congrArg (fun found => some (found, rest)) (housed_of_pos fits.1 _)

theorem items_itemTokens {room : Nat} (rest : List Token) :
    ∀ (x : Json) (xs : List Json) (fuel : Nat), FitsItems room (x :: xs) →
      2 * (itemTokens rest (x :: xs)).length ≤ fuel →
      items fuel room (itemTokens rest (x :: xs)) = some (x :: xs, rest)
  | x, xs, 0, _, enough => by
    have := length_lt_itemTokens rest (x :: xs)
    omega
  | x, [], fuel + 1, fits, enough => by
    rw [itemTokens, items, value_tokens (.closeArray :: rest) x fuel fits.1 enough]
  | x, y :: xs, fuel + 1, fits, enough => by
    have hlength := length_lt_tokens (.comma :: itemTokens rest (y :: xs)) x
    rw [itemTokens] at enough ⊢
    rw [List.length_cons] at hlength
    rw [items, value_tokens _ x fuel fits.1 enough]
    show (items fuel room (itemTokens rest (y :: xs))).map _ = _
    rw [items_itemTokens rest y xs fuel fits.2 (by omega)]
    rfl

theorem members_memberTokens {room : Nat} (rest : List Token) :
    ∀ (m : Option String × Json) (ms : List (Option String × Json)) (fuel : Nat),
      FitsMembers room (m :: ms) → 2 * (memberTokens rest (m :: ms)).length ≤ fuel →
      members fuel room (memberTokens rest (m :: ms)) = some (m :: ms, rest)
  | m, ms, 0, _, enough => by
    have := length_lt_memberTokens rest (m :: ms)
    omega
  | (key, x), [], fuel + 1, fits, enough => by
    rw [memberTokens, List.length_cons, List.length_cons] at enough
    rw [memberTokens, members, value_tokens (.closeObject :: rest) x fuel fits.2.1 (by omega)]
  | (key, x), m :: ms, fuel + 1, fits, enough => by
    have hlength := length_lt_tokens (.comma :: memberTokens rest (m :: ms)) x
    rw [memberTokens, List.length_cons, List.length_cons] at enough
    rw [List.length_cons] at hlength
    rw [memberTokens, members, value_tokens _ x fuel fits.2.1 (by omega)]
    show (members fuel room (memberTokens rest (m :: ms))).map _ = _
    rw [members_memberTokens rest m ms fuel fits.2.2 (by omega)]
    rfl

end

/-! ## The text of a value -/

theorem sendable_nil : Sendable [] where
  writable := fun _ ht => absurd ht List.not_mem_nil
  apart := .nil
  ending := fun _ ht => by cases ht

theorem parse_compact {j : Json} (fits : Fits deepest j) : parse j.compact = some j := by
  obtain ⟨writable, apart⟩ := tokens_sendable sendable_nil j fits
  have htokens : Token.ofString j.compact = some (tokens [] j) := by
    rw [Token.ofString, compact, String.toList_ofList]
    exact Token.scan_flatMap writable apart (Nat.le_refl _)
  have hvalue := value_tokens [] j (2 * (tokens [] j).length) fits (Nat.le_succ _)
  simp only [parse, htokens, Option.bind_eq_bind, Option.bind_some, hvalue]

theorem le_of_mem_compact {j : Json} {room : Nat} (fits : Fits room j) :
    ∀ d ∈ j.compact.toList, ' ' ≤ d := by
  obtain ⟨writable, -⟩ := tokens_sendable sendable_nil j fits
  intro d hd
  rw [compact, String.toList_ofList] at hd
  obtain ⟨token, htoken, hd⟩ := List.mem_flatMap.mp hd
  exact Token.le_of_mem_chars (writable token htoken) hd

theorem head?_compact_object (ms : List (Option String × Json)) :
    (compact (.object ms)).toList.head? = some '{' := by
  rw [compact, String.toList_ofList]
  rfl

end Vivarium.Json
