import Vivarium.Json.Fields
import Vivarium.Feed

/-!
# The written form of timestamps and observations

A timestamp is a text. An observation needs its timestamp and its source;
payload and affect may be missing.
-/

namespace Vivarium

open Json

namespace Timestamp

def toJson (t : Timestamp) : Json :=
  .text t.text

def ofJson (json : Json) : Option Timestamp := do
  read? (← asText json)

end Timestamp

namespace Observation

def fieldNames : List String :=
  ["timestamp", "source", "payload", "affect"]

def members (event : Observation) : List (String × Json) :=
  [ ("timestamp", event.timestamp.toJson),
    ("source", .text event.source),
    ("payload", .text event.payload),
    ("affect", .single event.affect) ]

def toJson (event : Observation) : Json :=
  .record event.members

def ofJson (json : Json) : Option Observation := do
  let fields ← Fields.of fieldNames json
  return {
    timestamp := ← fields.required "timestamp" Timestamp.ofJson
    source := ← fields.required "source" asText
    payload := ← fields.withDefault "payload" "" asText
    affect := ← fields.withDefault "affect" 0 asSingle }

end Observation

end Vivarium
