import Vivarium.Proofs.Form.Fields

/-!
# How deep a value is nested

A value that has been written without an unprintable number, a string without a
text or a mark in it comes back from its text unless it is nested too deeply.
So for the values that are written it is enough to know how deep they are, and
nobody has to count along how much room is left: a record is whole if its
members are, an array if its items are.
-/

namespace Vivarium.Json

mutual

/-- How many arrays and objects enclose one another in a value. -/
def nesting : Json → Nat
  | .null => 0
  | .bool _ => 0
  | .number _ => 0
  | .string _ => 0
  | .array xs => nestingItems xs + 1
  | .object ms => nestingMembers ms + 1
  | .buried => 0

/-- How many arrays and objects enclose one another in some item. -/
def nestingItems : List Json → Nat
  | [] => 0
  | x :: xs => max (nesting x) (nestingItems xs)

/-- How many arrays and objects enclose one another in some member. -/
def nestingMembers : List (Option String × Json) → Nat
  | [] => 0
  | (_, x) :: ms => max (nesting x) (nestingMembers ms)

end

theorem nestingItems_le {room : Nat} (xs : List Json) :
    nestingItems xs ≤ room ↔ ∀ x ∈ xs, x.nesting ≤ room := by
  induction xs with
  | nil => simp [nestingItems]
  | cons x xs ih => simp [nestingItems, ih]

theorem nestingMembers_record_le {room : Nat} (ms : List (String × Json)) :
    nestingMembers (ms.map fun (name, value) => (some name, value)) ≤ room ↔
      ∀ m ∈ ms, m.2.nesting ≤ room := by
  induction ms with
  | nil => simp [nestingMembers]
  | cons m ms ih => simp [nestingMembers, ih]

theorem fitsItems_iff {room : Nat} (xs : List Json) :
    FitsItems room xs ↔ ∀ x ∈ xs, Fits room x := by
  induction xs with
  | nil => simp [FitsItems]
  | cons x xs ih => simp [FitsItems, ih]

theorem fitsMembers_iff {room : Nat} (ms : List (Option String × Json)) :
    FitsMembers room ms ↔ ∀ m ∈ ms, m.1.isSome = true ∧ Fits room m.2 := by
  induction ms with
  | nil => simp [FitsMembers]
  | cons m ms ih => simp [FitsMembers, ih, and_assoc]

/-- Whether nothing but too deep a nesting keeps a value from coming back. -/
def Whole (j : Json) : Prop :=
  ∀ room, j.nesting ≤ room → Fits room j

theorem whole_null : Whole .null :=
  fun _ _ => trivial

theorem whole_nat (n : Nat) : Whole (.nat n) :=
  fun room _ => fits_nat room n

theorem whole_single (x : Float32) : Whole (.single x) :=
  fun room _ => fits_single room x

theorem whole_double (x : Float) : Whole (.double x) :=
  fun room _ => fits_double room x

theorem whole_text (s : String) : Whole (.text s) :=
  fun room _ => fits_text room s

theorem whole_bool (b : Bool) : Whole (.bool b) :=
  fun room _ => fits_bool room b

theorem whole_array {xs : List Json} (h : ∀ x ∈ xs, Whole x) : Whole (.array xs) := by
  intro room hroom
  obtain ⟨room, rfl⟩ := Nat.exists_eq_add_one_of_ne_zero (Nat.ne_zero_of_lt hroom)
  have hitems := (nestingItems_le xs).mp (Nat.le_of_succ_le_succ hroom)
  exact ⟨Nat.succ_pos room, (fitsItems_iff xs).mpr fun x hx => h x hx room (hitems x hx)⟩

theorem whole_record {ms : List (String × Json)} (h : ∀ m ∈ ms, Whole m.2) :
    Whole (.record ms) := by
  intro room hroom
  obtain ⟨room, rfl⟩ := Nat.exists_eq_add_one_of_ne_zero (Nat.ne_zero_of_lt hroom)
  have hmembers := (nestingMembers_record_le ms).mp (Nat.le_of_succ_le_succ hroom)
  exact fits_record fun m hm => h m hm room (hmembers m hm)

theorem nesting_le_of_mem_array {xs : List Json} {fuel : Nat}
    (h : (Json.array xs).nesting ≤ fuel + 1) : ∀ x ∈ xs, x.nesting ≤ fuel :=
  (nestingItems_le xs).mp (Nat.le_of_succ_le_succ h)

theorem nesting_le_of_mem_record {ms : List (String × Json)} {fuel : Nat}
    (h : (Json.record ms).nesting ≤ fuel + 1) : ∀ m ∈ ms, m.2.nesting ≤ fuel :=
  (nestingMembers_record_le ms).mp (Nat.le_of_succ_le_succ h)

end Vivarium.Json
