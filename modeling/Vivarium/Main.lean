import Std.Time.DateTime.Timestamp
import Vivarium.CommandLine

/-!
# The program

Everything that needs the world is here: files, standard input, the clock and
the choice of a seed. What is read, written and said is decided elsewhere.
-/

namespace Vivarium.Main

open CommandLine

def now : IO Timestamp := do
  let elapsed := (← Std.Time.Timestamp.now).toNanosecondsSinceUnixEpoch.val
  let seconds := elapsed / Timestamp.nanos
  return {
    day := seconds / Timestamp.daySeconds
    second := (seconds % Timestamp.daySeconds).toNat
    nano := (elapsed % Timestamp.nanos).toNat }

/-- What kept a file from being read. -/
def causeOf : IO.Error → FileError
  | .noFileOrDirectory .. => .missing
  | .inappropriateType _ code _ => if code = 21 then .isDirectory else .notDirectory
  | .invalidArgument _ code cause =>
      if code = 36 || code = -36 then .nameTooLong else .other cause
  | error => .other (toString error)

/-- The bytes of a file, or what kept it from being read. -/
def bytesOf (path : String) : IO (Except FileError ByteArray) := do
  match Path.check path with
  | .error error => return .error error
  | .ok () =>
      try return .ok (← IO.FS.readBinFile path)
      catch error => return .error (causeOf error)

/-- A log that is open at its end, and what is yet to be written to it. -/
structure OpenLog where
  handle : IO.FS.Handle
  waiting : IO.Ref ByteArray

/-- Opens a log at its end, with the directories it stands in. -/
def openLog (path : String) : IO (Option OpenLog) := do
  match Path.check path with
  | .error _ => return none
  | .ok () =>
      try
        match Path.leading path with
        | [] => pure ()
        | leading => IO.FS.createDirAll (String.intercalate "/" leading)
        let handle ← IO.FS.Handle.mk path .append
        return some { handle, waiting := ← IO.mkRef .empty }
      catch _ => return none

/-- A line without what ends it. -/
def stripEnd (line : String) : String :=
  let backwards := line.toList.reverse
  let backwards := if backwards.head? = some '\n' then backwards.drop 1 else backwards
  let backwards := if backwards.head? = some '\r' then backwards.drop 1 else backwards
  String.ofList backwards.reverse

/-- Pushes what standard input holds into the feed, and closes the feed at its end. -/
partial def observe (field : IO.Ref Field) (input : IO.FS.Stream) : IO Unit := do
  let line ← try input.getLine catch _ => pure ""
  if line.isEmpty then field.modify (·.step .closeFeed)
  else
    if let some event := Json.parse (stripEnd line) >>= Observation.ofJson then
      field.modify (·.step (.observe event))
    observe field input

/-- What kept entries out of a log. -/
def refusalOf : IO.Error → String
  | .resourceExhausted .. => fullCause
  | error => toString error

/-- Appends what a field has recorded to its log, or says what keeps it waiting. -/
def writeLog (field : IO.Ref Field) (log : Option OpenLog) : IO (Option String) := do
  let entries ← field.modifyGet Field.takeLog
  let some log := log | return none
  let bytes := AuditLog.append (← log.waiting.get) entries
  log.waiting.set bytes
  if bytes.isEmpty then return none
  try
    log.handle.write bytes
    log.handle.flush
    log.waiting.set .empty
    return none
  catch error => return some (refusalOf error)

/-- Takes the turns of a run, some milliseconds apart. -/
def takeTurns (field : IO.Ref Field) (log : Option OpenLog) (apart : Nat) : Nat → IO Unit
  | 0 => return
  | count + 1 => do
      let time ← now
      field.modify (·.turn .accepting time)
      let _ ← writeLog field log
      IO.println (statusLine (← field.get).snapshot.status)
      if count ≠ 0 then IO.sleep (UInt32.ofNat (min apart (UInt32.size - 1)))
      takeTurns field log apart count

/-- Runs a field that is ready to start for some ticks. -/
def go (start : Field) (ticks : Nat) (log : Option OpenLog) : IO UInt32 := do
  let field ← IO.mkRef start
  let _ ← IO.asTask (observe field (← IO.getStdin)) Task.Priority.dedicated
  let began ← IO.monoMsNow
  takeTurns field log (Field.wait start.population.config.schedule) (turnsOf ticks)
  let time ← now
  let summary ← field.modifyGet (·.stop .accepting time)
  match settled (← writeLog field log) summary with
  | .ok summary =>
      (closing summary (← field.get).feed.dropped).forM IO.println
      IO.println (timeLine ((← IO.monoMsNow) - began) summary.ticks)
      return 0
  | .error error =>
      IO.eprintln (stopLine error)
      return 1

/-- Runs a population for some ticks. -/
def live (population : Population) (ticks : Nat) : IO UInt32 := do
  let audit := population.config.audit
  let old ← if audit.replayEntries = 0 then pure none else audit.path.mapM bytesOf
  let log ← audit.path.bindM openLog
  let (said, start) := prepare population ticks (old.bind Except.toOption) log.isSome
  said.forM IO.println
  match start with
  | .ok field => go field ticks log
  | .error fault =>
      IO.eprintln fault.message
      return UInt32.ofNat faultCode

/-- A configuration with a seed, drawn if it has none. -/
def seeded (config : FieldConfig) : IO FieldConfig := do
  match config.seed with
  | some _ => return config
  | none => return { config with seed := some (← IO.rand 0 (Json.wordBound - 1)) }

/-- Runs the configuration of a file for some ticks. -/
def runFile (path : String) (ticks : Nat) : IO UInt32 := do
  match configOf (← bytesOf path) with
  | .error error => refuse error
  | .ok config =>
      match populationOf (← seeded config) with
      | .error error => refuse error
      | .ok population => live population ticks
where
  /-- Says why a run does not start. -/
  refuse (error : StartError) : IO UInt32 := do
    IO.eprintln error.message
    return 1

/-- Does what some arguments ask for. -/
def run (args : List String) : IO UInt32 := do
  match Request.ofArguments args with
  | .usage =>
      usage.forM IO.eprintln
      return 1
  | .standard =>
      IO.println standardConfig.toJson.pretty
      return 0
  | .run path ticks => runFile path ticks

end Vivarium.Main

def main (args : List String) : IO UInt32 :=
  Vivarium.Main.run args
