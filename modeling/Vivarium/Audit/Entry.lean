import Vivarium.Form.Cell

/-!
# Entries of the audit log

The log keeps what happened, one entry a line: observations that counted,
evaluations, lineages that were recorded, signals sent and what became of them.
An entry is written as the object of what it holds with one more member in
front, `entry`, that says which of the five it is. A line holds no line break
of its own, because strings escape theirs.
-/

namespace Vivarium

open Json

/-- One entry of the audit log. -/
inductive AuditEntry where
  | observation (event : Observation)
  | fitness (record : FitnessRecord)
  | signal (signal : Signal)
  | outcome (outcome : Outcome)
  | lineage (record : LineageRecord)

namespace AuditEntry

/-- The bytes that an entry takes up where room is set aside for it; a signal takes up the most. -/
def footprint : Nat := Signal.footprint

/-- The names of the kinds of entry, in the order of their positions. -/
def kinds : List String :=
  ["Observation", "Fitness", "Signal", "Outcome", "Lineage"]

def kind : AuditEntry → String
  | .observation _ => "Observation"
  | .fitness _ => "Fitness"
  | .signal _ => "Signal"
  | .outcome _ => "Outcome"
  | .lineage _ => "Lineage"

/-- The members of what an entry holds. -/
def members : AuditEntry → List (String × Json)
  | .observation event => event.members
  | .fitness record => record.members
  | .signal sent => sent.members
  | .outcome result => result.members
  | .lineage record => record.members

def toJson (entry : AuditEntry) : Json :=
  .record (("entry", .text entry.kind) :: entry.members)

def ofJson (json : Json) : Option AuditEntry := do
  let (tag, rest) ← tagged "entry" json
  match ← asTag .direct kinds tag with
  | 0 => return .observation (← Observation.ofJson rest)
  | 1 => return .fitness (← FitnessRecord.ofJson .held rest)
  | 2 => return .signal (← Signal.ofJson rest)
  | 3 => return .outcome (← Outcome.ofJson rest)
  | 4 => return .lineage (← LineageRecord.ofJson .held rest)
  | _ => none

/-- The lineage record of an entry, if it is one. -/
def lineage? : AuditEntry → Option LineageRecord
  | .lineage record => some record
  | _ => none

/-- The descriptor of an evaluation that was no fault. -/
def soundDescriptor? : AuditEntry → Option Descriptor
  | .fitness record => if record.score.fault then none else some record.descriptor
  | _ => none

end AuditEntry

end Vivarium
