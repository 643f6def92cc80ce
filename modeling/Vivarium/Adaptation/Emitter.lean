import Vivarium.Adaptation.Signal

/-!
# The emitter

Once a tick the emitter holds its rules against the figures and sends at most
one signal per parameter: where several rules for a parameter apply, the last
one in the list speaks. Signals leave in the order of the rules that won.

How unsettled the field is, its dissonance, is the variance of affect plus a
tenth for every signal of the ticks just past, and never more than one. For
that the emitter keeps the ticks of its recent signals, and forgets them from
the front once they have left the window.

A run of an emitter is any number of readings, one after another, each of them
the figures of a tick and the time. What was sent in it is what the emitter sent
at each of them, earliest first.
-/

namespace Vivarium

open Number

/-- The rules of the emitter and how long a signal counts. -/
structure AdaptationConfig where
  rules : List Rule
  window : Nat := 12

/-- The memory of the emitter: ticks of recent signals, and the value last sent per parameter. -/
structure Emitter where
  config : AdaptationConfig
  recent : List Nat := []
  latest : List (String × Float) := []

/-- What an emitter is shown at a tick. -/
structure Reading where
  metrics : Metrics
  now : Timestamp

namespace Emitter

/-- The value last sent for a parameter. -/
def last? (emitter : Emitter) (parameter : String) : Option Float :=
  emitter.latest.lookup parameter

/-- Whether a signal of tick `tick` counts towards the dissonance of tick `now`. -/
def counts (window now tick : Nat) : Bool :=
  tick < now && now - tick < window

/-- How many recent signals count for a tick. -/
def counted (emitter : Emitter) (now : Nat) : Nat :=
  emitter.recent.countP (counts emitter.config.window now)

/-- How unsettled the field is. -/
def dissonance (emitter : Emitter) (metrics : Metrics) : Float32 :=
  let variance := if metrics.affectVariance.isFinite then larger metrics.affectVariance 0 else 0
  smaller (variance + Float32.ofNat (emitter.counted metrics.tick) / 10) 1

/-- The rules that speak: they hold, and no later rule for their parameter does. -/
def winners (metrics : Metrics) (dissonance : Float32) : List Rule → List Rule
  | [] => []
  | rule :: rest =>
      let later := winners metrics dissonance rest
      if rule.condition.holds metrics dissonance && later.all (·.parameter != rule.parameter) then
        rule :: later
      else later

/-- The signal of a rule that speaks. -/
def signalOf (emitter : Emitter) (tick : Nat) (now : Timestamp) (rule : Rule) : Signal :=
  { tick
    parameter := rule.parameter
    value := rule.value
    previous := emitter.last? rule.parameter
    reason := rule.reason
    timestamp := now }

def signals (emitter : Emitter) (metrics : Metrics) (now : Timestamp) : List Signal :=
  (winners metrics (emitter.dissonance metrics) emitter.config.rules).map
    (emitter.signalOf metrics.tick now)

/-- The values last sent, after one more signal. -/
def remember (latest : List (String × Float)) (signal : Signal) : List (String × Float) :=
  (signal.parameter, signal.value) :: latest.filter (·.1 != signal.parameter)

/-- Ticks without those at the front that have left the window. -/
def forget (window now : Nat) (recent : List Nat) : List Nat :=
  recent.dropWhile fun tick => window ≤ now - tick

/-- Sends the signals for the figures of a tick. -/
def evaluate (emitter : Emitter) (metrics : Metrics) (now : Timestamp) : List Signal × Emitter :=
  let sent := emitter.signals metrics now
  (sent,
    { emitter with
      -- The signals just sent are in line behind the older ones when the window moves on.
      recent := forget emitter.config.window metrics.tick (emitter.recent ++ sent.map (·.tick))
      latest := sent.foldl remember emitter.latest })

/-- The signals that an emitter sends when it is shown a reading. -/
def reply (emitter : Emitter) (reading : Reading) : List Signal :=
  (emitter.evaluate reading.metrics reading.now).1

def shown (emitter : Emitter) (reading : Reading) : Emitter :=
  (emitter.evaluate reading.metrics reading.now).2

def after (emitter : Emitter) (readings : List Reading) : Emitter :=
  readings.foldl shown emitter

/-- The signals sent in the course of some readings. -/
def sent (emitter : Emitter) : List Reading → List Signal
  | [] => []
  | reading :: rest => emitter.reply reading ++ (emitter.shown reading).sent rest

end Emitter

end Vivarium
