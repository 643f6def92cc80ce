import Vivarium.Field.Schedule
import Vivarium.Files.Path
import Vivarium.Form.Config
import Vivarium.Population.Replay

/-!
# The command line

A run is asked for by the path of a configuration and, if one likes, a number
of ticks. What is said before, during and after the run is fixed here line by
line, and so is all that is decided on the way: whether the configuration will
do, what of the audit log is replayed, and when the run is over. Files and time
are left to the caller.
-/

namespace Vivarium.CommandLine

/-- What a command line asks for. -/
inductive Request where
  | usage
  | standard
  | run (path : String) (ticks : Nat)
  deriving DecidableEq, Repr

/-- The number of ticks of a run that does not say. -/
def usualTicks : Nat := 10

/-- A number of ticks: digits, perhaps after a plus sign. -/
def ticks? (argument : String) : Option Nat :=
  let digits :=
    match argument.toList with
    | '+' :: rest => rest
    | all => all
  let count := Json.natOfDigits digits
  if !digits.isEmpty && digits.all Char.isDigit && count < Json.wordBound then some count else none

/-- What some arguments ask for. -/
def Request.ofArguments : List String → Request
  | [] => .usage
  | path :: rest =>
      if path = "--example" then .standard
      else .run path ((rest.head?.bind ticks?).getD usualTicks)

def program : String := "cell-field"

def usage : List String :=
  [ s!"Usage: {program} <config.json> [ticks]",
    "",
    "Run the cell field, reading observation events from stdin.",
    "",
    "Arguments:",
    "  config.json  Path to field configuration file",
    "  ticks        Number of ticks to run (default: 10)",
    "",
    "Example configuration is generated with --example flag." ]

/-- The configuration that is shown to start from. -/
def standardConfig : FieldConfig :=
  { seed := some 42 }

/-! ## Before the run -/

/-- The text of a file's bytes. -/
def textOf (bytes : ByteArray) : Except FileError String :=
  match String.fromUTF8? bytes with
  | some text => .ok text
  | none => .error .notText

/-- Why a run does not start. -/
inductive StartError where
  | unreadable (cause : FileError)
  | malformed
  | invalid (error : ConfigError)

def StartError.message : StartError → String
  | .unreadable cause => "Error reading config file: " ++ cause.message
  | .malformed => "Error parsing config: this is not a field configuration"
  | .invalid error => "Invalid configuration: " ++ error.message

/-- The configuration that a file holds, or what kept its bytes from being read. -/
def configOf (file : Except FileError ByteArray) : Except StartError FieldConfig := do
  let text ← (file >>= textOf).mapError .unreadable
  match Json.parse text >>= FieldConfig.ofJson with
  | some config => return config
  | none => throw .malformed

/-- The population a configuration asks for, if the configuration is valid. -/
def populationOf (config : FieldConfig) : Except StartError Population :=
  (Population.create config Resonance.interpret).mapError .invalid

/-- What is said of a replay. -/
def replayLine (entries : Nat) (replayed : Replayed) : String :=
  s!"Replayed {entries} entries: {replayed.lineages} lineage records, {replayed.cells} cells"

/-- Gives a population its past out of the log, as far as there is one to read. -/
def revive (population : Population) (log : Option ByteArray) :
    Except Fault (List String × Population) :=
  let wanted := population.config.audit.replayEntries
  if wanted = 0 then .ok ([], population)
  else
    match AuditLog.tail? log wanted with
    | .ok entries => do
        let (replayed, population) ← population.replay entries
        return ([replayLine entries.length replayed], population)
    | .error (.faulted fault) => .error fault
    | .error _ => .ok ([], population)

/-- What is said of a configuration before the run. -/
def banner (config : FieldConfig) (ticks : Nat) : List String :=
  let death := Number.plainSingle config.selection.death
  let birth := Number.plainSingle config.selection.birth
  [ "Cell Field",
    "==========",
    s!"Population: {config.population.initialSize} initial, {config.population.maxSize} max",
    s!"Thresholds: death < {death}, birth > {birth}",
    s!"Rules: {config.adaptation.rules.length}",
    s!"Period: {config.schedule.period} ms",
    s!"Ticks: {ticks}",
    "" ]

/-- A field ready to start, if it can be, and what is said before it does. -/
def prepare (population : Population) (ticks : Nat) (log : Option ByteArray) (recorded : Bool) :
    List String × Except Fault Field :=
  match revive population log with
  | .error fault => ([], .error fault)
  | .ok (said, population) =>
      let recorder := if recorded then some population.config.audit.recorder else none
      (said ++ banner population.config ticks, Field.launch population recorder)

/-- The code a run ends with that met a fault. -/
def faultCode : Nat := 101

/-! ## During the run -/

/-- How many turns a run takes: there is always a first. -/
def turnsOf (ticks : Nat) : Nat :=
  max ticks 1

/-- What is said after a tick. -/
def statusLine (status : Status) : String :=
  "  " ++ status.text

/-- Lets a field take some turns, and collects what is said after each. -/
def proceed (now : Timestamp) : Nat → Field → List String × Field
  | 0, field => ([], field)
  | count + 1, field =>
      let field := field.turn .accepting now
      let (said, last) := proceed now count field
      (statusLine field.snapshot.status :: said, last)

/-! ## After the run -/

/-- What is said after the run, but for the time it took. -/
def closing (summary : Summary) (dropped : Nat) : List String :=
  let audit :=
    match summary.audit with
    | some stats => ["  Audit: " ++ stats.text]
    | none => []
  [ "",
    "Final state:",
    statusLine summary.status,
    "  Signals: " ++ summary.signalsText,
    s!"  Observations dropped: {dropped}" ] ++ audit

/-- What writing to a full device says. -/
def fullCause : String := "No space left on device (os error 28)"

/-- What a stopped field sums up to: an error if entries were kept out of the log for some cause. -/
def settled (refusal : Option String) (summary : Except RunError Summary) :
    Except RunError Summary :=
  match summary, refusal with
  | .ok _, some cause => .error (.audit cause)
  | found, _ => found

/-- What is said of the time a run took. -/
def timeLine (milliseconds ticks : Nat) : String :=
  let hundredths := Number.roundDiv .even milliseconds 10
  s!"Time: {hundredths / 100}.{Number.padded 2 (hundredths % 100)}s ({ticks} ticks)"

/-- What is said if the field could not be stopped. -/
def stopLine (error : RunError) : String :=
  "Error during shutdown: " ++ error.message

end Vivarium.CommandLine
