import Vivarium.Form.Signal
import Vivarium.Proofs.Form.Nesting

/-!
# Conditions are read as they are written

A condition is written with its name in front, so it is read where it stands
and nothing of it is ever held. Reading spends one unit of fuel on a condition
and goes one level down, while every condition with parts takes up two levels of
the written form; so a value that is not nested too deeply never uses up the
fuel.
-/

namespace Vivarium

open Json

namespace Condition

mutual

/-- A condition and all conditions in it. -/
def parts : Condition → List Condition
  | .all conditions => .all conditions :: partsOf conditions
  | .any conditions => .any conditions :: partsOf conditions
  | c => [c]

/-- Some conditions and all conditions in them. -/
def partsOf : List Condition → List Condition
  | [] => []
  | c :: rest => parts c ++ partsOf rest

end

/-- The limit of a condition that counts. -/
def bound? : Condition → Option Nat
  | .populationBelow limit => some limit
  | .populationAbove limit => some limit
  | _ => none

/-- The limit of a condition that measures. -/
def limit? : Condition → Option Float32
  | .meanFitnessBelow limit => some limit
  | .meanFitnessAbove limit => some limit
  | .diversityBelow limit => some limit
  | .diversityAbove limit => some limit
  | .dissonanceAbove limit => some limit
  | _ => none

/-- The natural numbers in a condition. -/
def counts (c : Condition) : List Nat :=
  c.parts.filterMap bound?

/-- The singles in a condition. -/
def singles (c : Condition) : List Float32 :=
  c.parts.filterMap limit?

theorem partsOf_eq_flatMap (conditions : List Condition) :
    partsOf conditions = conditions.flatMap parts := by
  induction conditions with
  | nil => rfl
  | cons c rest ih => rw [partsOf, ih, List.flatMap_cons]

@[simp] theorem counts_all (conditions : List Condition) :
    (all conditions).counts = conditions.flatMap counts := by
  rw [counts, parts, partsOf_eq_flatMap, List.filterMap_cons_none rfl, List.filterMap_flatMap]
  rfl

@[simp] theorem counts_any (conditions : List Condition) :
    (any conditions).counts = conditions.flatMap counts := by
  rw [counts, parts, partsOf_eq_flatMap, List.filterMap_cons_none rfl, List.filterMap_flatMap]
  rfl

@[simp] theorem singles_all (conditions : List Condition) :
    (all conditions).singles = conditions.flatMap singles := by
  rw [singles, parts, partsOf_eq_flatMap, List.filterMap_cons_none rfl, List.filterMap_flatMap]
  rfl

@[simp] theorem singles_any (conditions : List Condition) :
    (any conditions).singles = conditions.flatMap singles := by
  rw [singles, parts, partsOf_eq_flatMap, List.filterMap_cons_none rfl, List.filterMap_flatMap]
  rfl

theorem listToJson_eq_map (conditions : List Condition) :
    listToJson conditions = conditions.map toJson := by
  induction conditions with
  | nil => rfl
  | cons c rest ih => rw [listToJson, ih, List.map_cons]

theorem whole_valued {name : String} {value : Json} (h : Whole value) :
    Whole (valued name value) :=
  whole_record (by simpa using ⟨whole_text name, h⟩)

mutual

theorem whole_toJson : ∀ c : Condition, Whole c.toJson
  | .meanFitnessBelow _ | .meanFitnessAbove _ | .diversityBelow _ | .diversityAbove _
  | .dissonanceAbove _ => whole_valued (whole_single _)
  | .populationBelow _ | .populationAbove _ => whole_valued (whole_nat _)
  | .extinct | .degraded => whole_record (by simpa using whole_text _)
  | .all conditions | .any conditions => whole_valued (whole_array (whole_listToJson conditions))

theorem whole_listToJson : ∀ conditions : List Condition, ∀ j ∈ listToJson conditions, Whole j
  | [] => by simp [listToJson]
  | c :: rest => List.forall_mem_cons.mpr ⟨whole_toJson c, whole_listToJson rest⟩

end

/-! ## Reading -/

theorem of_valued (name : String) (value : Json) : Fields.of ["when", "value"] (valued name value) =
    some { ordered := false, found := [("when", .text name), ("value", value)] } :=
  of_record rfl (by decide)

theorem of_bare (name : String) : Fields.of ["when", "value"] (.record [("when", .text name)]) =
    some { ordered := false, found := [("when", .text name)] } :=
  of_record_of_known (by simp) (by simp)

/-- A condition is read with no more fuel than it is deep. -/
theorem read_toJson (fuel : Nat) (c : Condition) (counts : ∀ n ∈ c.counts, n < wordBound)
    (back : ∀ x ∈ c.singles, asSingle (.single x) = some x) (shallow : c.toJson.nesting ≤ fuel) :
    read fuel .direct c.toJson = some c := by
  induction fuel generalizing c with
  | zero => cases c <;> exact absurd shallow (Nat.not_succ_le_zero _)
  | succ fuel ih =>
      cases c with
      | meanFitnessBelow limit | meanFitnessAbove limit | diversityBelow limit
      | diversityAbove limit | dissonanceAbove limit =>
          have hlimit := back limit (by simp [singles, parts, limit?])
          rw [toJson, read, of_valued]
          simp [valueFirst, nameOf, asName, Json.text, position?, names, List.findIdx?_cons,
            Fields.required, Fields.get?, List.lookup_cons, hlimit]
      | populationBelow limit | populationAbove limit =>
          have hlimit := counts limit (by simp [Condition.counts, parts, bound?])
          rw [toJson, read, of_valued]
          simp [valueFirst, nameOf, asName, Json.text, position?, names, List.findIdx?_cons,
            Fields.required, Fields.get?, List.lookup_cons, asNat_nat hlimit]
      | extinct | degraded =>
          rw [toJson, read, of_bare]
          simp [valueFirst, nameOf, asName, Json.text, position?, names, List.findIdx?_cons, bare,
            Fields.required, Fields.get?, List.lookup_cons]
      | all conditions | any conditions =>
          simp only [counts_all, counts_any, singles_all, singles_any, List.mem_flatMap,
            forall_exists_index, and_imp] at counts back
          -- A condition with parts takes up two levels, and only one unit of fuel.
          have hvalue := nesting_le_of_mem_record shallow
            ("value", .array (listToJson conditions)) (by simp)
          have hitems := nesting_le_of_mem_array (Nat.le_succ_of_le hvalue)
          rw [listToJson_eq_map, List.forall_mem_map] at hitems
          have hparts := asList_array_map fun c hc =>
            ih c (fun n => counts n c hc) (fun x => back x c hc) (hitems c hc)
          rw [← listToJson_eq_map] at hparts
          rw [toJson, read, of_valued]
          simp [valueFirst, nameOf, asName, Json.text, position?, names, List.findIdx?_cons,
            Fields.required, Fields.get?, List.lookup_cons, hparts]

theorem ofJson_toJson {c : Condition} (counts : ∀ n ∈ c.counts, n < wordBound)
    (back : ∀ x ∈ c.singles, asSingle (.single x) = some x)
    (shallow : c.toJson.nesting ≤ deepest) : Condition.ofJson c.toJson = some c :=
  read_toJson deepest c counts back shallow

end Condition

/-! ## Rules -/

namespace Rule

theorem whole_toJson (rule : Rule) : Whole rule.toJson := by
  refine whole_record ?_
  simp [Condition.whole_toJson, whole_text, whole_double]

theorem ofJson_toJson {rule : Rule} (counts : ∀ n ∈ rule.condition.counts, n < wordBound)
    (singles : ∀ x ∈ rule.condition.singles, asSingle (.single x) = some x)
    (value : asDouble (.double rule.value) = some rule.value)
    (shallow : rule.toJson.nesting ≤ deepest) : Rule.ofJson rule.toJson = some rule := by
  have hcondition := nesting_le_of_mem_record (Nat.le_succ_of_le shallow)
    ("condition", rule.condition.toJson) (by simp)
  have hread := Condition.ofJson_toJson counts singles hcondition
  simp [Rule.ofJson, Rule.toJson, of_record, Fields.required, Fields.get?, List.lookup_cons, hread,
    asText_text, value]

end Rule

end Vivarium
