import Vivarium.Adaptation.Emitter
import Vivarium.Form.Observation

/-!
# The written form of conditions, rules, signals and outcomes

A condition is written as an object whose member `when` names it, with its
limit or its parts under `value`. Reading takes the two in any order; where the
value comes first it is held until the name is known. The array of name and
value says the same, but there the name is a tag: it takes no object, and inside
of a held value the position will do. Conditions nest no deeper than values do,
which bounds the recursion of the reader.
-/

namespace Vivarium

open Json

namespace Condition

/-- The names of the conditions, in the order of their positions. -/
def names : List String :=
  [ "MeanFitnessBelow", "MeanFitnessAbove", "DiversityBelow", "DiversityAbove", "PopulationBelow",
    "PopulationAbove", "Extinct", "Degraded", "DissonanceAbove", "All", "Any" ]

/-- A condition with a value. -/
def valued (name : String) (value : Json) : Json :=
  .record [("when", .text name), ("value", value)]

mutual

def toJson : Condition → Json
  | .meanFitnessBelow limit => valued "MeanFitnessBelow" (.single limit)
  | .meanFitnessAbove limit => valued "MeanFitnessAbove" (.single limit)
  | .diversityBelow limit => valued "DiversityBelow" (.single limit)
  | .diversityAbove limit => valued "DiversityAbove" (.single limit)
  | .populationBelow limit => valued "PopulationBelow" (.nat limit)
  | .populationAbove limit => valued "PopulationAbove" (.nat limit)
  | .extinct => .record [("when", .text "Extinct")]
  | .degraded => .record [("when", .text "Degraded")]
  | .dissonanceAbove limit => valued "DissonanceAbove" (.single limit)
  | .all conditions => valued "All" (.array (listToJson conditions))
  | .any conditions => valued "Any" (.array (listToJson conditions))

/-- The written forms of some conditions. -/
def listToJson : List Condition → List Json
  | [] => []
  | c :: rest => toJson c :: listToJson rest

end

/-- Whether the value of a condition stands before its name. -/
def valueFirst (fields : Fields) : Bool :=
  match fields.found with
  | ("value", _) :: _ => true
  | _ => false

/-- The position of the name that a condition bears. -/
def nameOf (manner : Manner) (fields : Fields) : Option Nat :=
  fields.required "when" (if fields.ordered then asTag manner names else asName manner names)

/-- A condition without a value: none is written, or null. -/
def bare (condition : Condition) (fields : Fields) : Option Condition :=
  match fields.get? "value" with
  | some .null => some condition
  | some _ => none
  | none => if fields.ordered then none else some condition

/-- A condition from its written form, nested no deeper than the fuel allows. -/
def read : Nat → Manner → Json → Option Condition
  | 0, _, _ => none
  | fuel + 1, manner, json => do
      let fields ← Fields.of ["when", "value"] json
      let early := valueFirst fields
      if early && !((fields.get? "value").all readable) then none
      let inner := if early then .held else manner
      let parts := fields.required "value" (asList (read fuel inner))
      let limit := fields.required "value" asSingle
      let bound := fields.required "value" asNat
      match ← nameOf manner fields with
      | 0 => return .meanFitnessBelow (← limit)
      | 1 => return .meanFitnessAbove (← limit)
      | 2 => return .diversityBelow (← limit)
      | 3 => return .diversityAbove (← limit)
      | 4 => return .populationBelow (← bound)
      | 5 => return .populationAbove (← bound)
      | 6 => bare .extinct fields
      | 7 => bare .degraded fields
      | 8 => return .dissonanceAbove (← limit)
      | 9 => return .all (← parts)
      | 10 => return .any (← parts)
      | _ => none

def ofJson (json : Json) : Option Condition :=
  read deepest .direct json

end Condition

namespace Rule

def toJson (rule : Rule) : Json :=
  .record
    [ ("condition", rule.condition.toJson),
      ("parameter", .text rule.parameter),
      ("value", .double rule.value),
      ("reason", .text rule.reason) ]

def ofJson (json : Json) : Option Rule := do
  let fields ← Fields.of ["condition", "parameter", "value", "reason"] json
  return {
    condition := ← fields.required "condition" Condition.ofJson
    parameter := ← fields.required "parameter" asText
    value := ← fields.required "value" asDouble
    reason := ← fields.required "reason" asText }

end Rule

/-- The written form of something that may be missing. -/
def Json.option (write : α → Json) : Option α → Json
  | none => .null
  | some value => write value

namespace Signal

def fieldNames : List String :=
  ["tick", "parameter", "value", "previous", "reason", "timestamp"]

def members (signal : Signal) : List (String × Json) :=
  [ ("tick", .nat signal.tick),
    ("parameter", .text signal.parameter),
    ("value", .double signal.value),
    ("previous", .option .double signal.previous),
    ("reason", .text signal.reason),
    ("timestamp", signal.timestamp.toJson) ]

def toJson (signal : Signal) : Json :=
  .record signal.members

def ofJson (json : Json) : Option Signal := do
  let fields ← Fields.of fieldNames json
  return {
    tick := ← fields.required "tick" asNat
    parameter := ← fields.required "parameter" asText
    value := ← fields.required "value" asDouble
    previous := ← fields.optional "previous" asDouble
    reason := ← fields.required "reason" asText
    timestamp := ← fields.required "timestamp" Timestamp.ofJson }

end Signal

namespace Outcome

def fieldNames : List String :=
  ["tick", "parameter", "value", "success", "error"]

def members (outcome : Outcome) : List (String × Json) :=
  [ ("tick", .nat outcome.tick),
    ("parameter", .text outcome.parameter),
    ("value", .double outcome.value),
    ("success", .bool outcome.success),
    ("error", .option .text outcome.error) ]

def toJson (outcome : Outcome) : Json :=
  .record outcome.members

def ofJson (json : Json) : Option Outcome := do
  let fields ← Fields.of fieldNames json
  return {
    tick := ← fields.required "tick" asNat
    parameter := ← fields.required "parameter" asText
    value := ← fields.required "value" asDouble
    success := ← fields.required "success" asBool
    error := ← fields.optional "error" asText }

end Outcome

end Vivarium
