import Vivarium.Adaptation.Condition
import Vivarium.Time.Timestamp

/-!
# Signals

A rule proposes a value for a parameter of the outside world whenever its
condition holds. What it sends out is a signal, and what a sink made of the
signal is its outcome. A sink is free to refuse; a signal is not sent again.
-/

namespace Vivarium

/-- A condition and what to propose when it holds. -/
structure Rule where
  condition : Condition
  parameter : String
  value : Float
  reason : String

/-- A proposed change of one parameter. -/
structure Signal where
  tick : Nat
  parameter : String
  value : Float
  previous : Option Float
  reason : String
  timestamp : Timestamp

/-- What became of a signal. -/
structure Outcome where
  tick : Nat
  parameter : String
  value : Float
  success : Bool
  error : Option String

namespace Signal

/-- The bytes that a signal takes up where room is set aside for it. -/
def footprint : Nat := 96

/-- The outcome of a signal that was applied. -/
def applied (signal : Signal) : Outcome :=
  { tick := signal.tick
    parameter := signal.parameter
    value := signal.value
    success := true
    error := none }

/-- The outcome of a signal that was not applied, and why. -/
def failed (signal : Signal) (error : String) : Outcome :=
  { signal.applied with success := false, error := some error }

end Signal

/-- Why a sink did not apply a signal. -/
inductive SinkError where
  | rejected (reason : String)
  | unavailable (reason : String)
  deriving DecidableEq, Repr

def SinkError.message : SinkError → String
  | .rejected reason => "Signal rejected: " ++ reason
  | .unavailable reason => "Sink unavailable: " ++ reason

/-- Where signals go. -/
abbrev Sink := Signal → Except SinkError Unit

namespace Sink

/-- The outcome of giving a signal to a sink. -/
def outcome (sink : Sink) (signal : Signal) : Outcome :=
  match sink signal with
  | .ok () => signal.applied
  | .error error => signal.failed error.message

/-- The sink that applies everything by doing nothing. -/
def accepting : Sink :=
  fun _ => .ok ()

end Sink

/-- What is noted of a signal that is only looked at. -/
def Signal.note (signal : Signal) : String :=
  let value := Number.plainDouble signal.value
  let change :=
    match signal.previous with
    | some previous => Number.plainDouble previous ++ " -> " ++ value
    | none => value
  s!"Adapt {signal.parameter}: {change} ({signal.reason})"

end Vivarium
