import Vivarium.Audit.Entry
import Vivarium.Fault
import Vivarium.Json.Reader
import Vivarium.Json.Writer
import Vivarium.Text.Blank

/-!
# The audit log as bytes

The log is a file of lines. It only ever grows at its end, an entry and a line
feed at a time, so what several recorders wrote one after another reads as one
log. A reader takes the lines in order: a line that is blank says nothing, any
other must be an entry, and the first that is not makes the whole log
unreadable and is named by its number. A last line without a line feed counts,
and a carriage return in front of a line feed does not.

The end of a log can be read by itself. Every line is still looked at, so that
a broken log does not pass for a short one, but no more entries are kept than
were asked for. The room for these is set aside before the first line is read.
-/

namespace Vivarium

/-- Why a log cannot be read. -/
inductive LogError where
  | missing
  | garbled
  | malformed (line : Nat)
  | faulted (fault : Fault)
  deriving DecidableEq, Repr

def LogError.message : LogError → String
  | .missing => "No audit log"
  | .garbled => "The audit log is not text"
  | .malformed line => s!"Malformed audit entry on line {line}"
  | .faulted fault => fault.message

namespace AuditEntry

/-- An entry as a line, without the line feed. -/
def encode (entry : AuditEntry) : String :=
  entry.toJson.compact

/-- The entry that a line holds. -/
def decode? (line : String) : Option AuditEntry := do
  ofJson (← Json.parse line)

/-- The entry that the line with the given number holds. -/
def decode (line : String) (number : Nat) : Except LogError AuditEntry :=
  match decode? line with
  | some entry => .ok entry
  | none => .error (.malformed number)

end AuditEntry

/-- The last `n` items of a list. -/
def lastOf (n : Nat) (items : List α) : List α :=
  items.drop (items.length - n)

namespace AuditLog

def add (log : ByteArray) (entry : AuditEntry) : ByteArray :=
  log ++ (entry.encode ++ "\n").toUTF8

def append (log : ByteArray) (entries : List AuditEntry) : ByteArray :=
  entries.foldl add log

/-- What ends a line. -/
def lineFeed : UInt8 := 10

/-- What may stand in front of a line feed. -/
def carriageReturn : UInt8 := 13

/-- A line given backwards, put the right way around and without its carriage return. -/
def finished : List UInt8 → List UInt8
  | [] => []
  | last :: rest => if last = carriageReturn then rest.reverse else (last :: rest).reverse

/-- The lines of some bytes, of which `seen` have been read of the first line, backwards. -/
def linesFrom (seen : List UInt8) : List UInt8 → List (List UInt8)
  -- A last line that is not ended keeps its carriage return.
  | [] => if seen.isEmpty then [] else [seen.reverse]
  | byte :: rest =>
      if byte = lineFeed then finished seen :: linesFrom [] rest
      else linesFrom (byte :: seen) rest

def lines (log : ByteArray) : List (List UInt8) :=
  linesFrom [] log.data.toList

/-- The entry of a line, if the line is not blank. -/
def entryOf (number : Nat) (line : List UInt8) : Except LogError (Option AuditEntry) :=
  match String.fromUTF8? ⟨line.toArray⟩ with
  | none => .error .garbled
  | some text =>
      if Text.allBlank text then .ok none else (AuditEntry.decode text number).map some

/-- The entries of lines that are numbered from `number` on. -/
def entriesOf (number : Nat) : List (List UInt8) → Except LogError (List AuditEntry)
  | [] => .ok []
  | line :: rest => do
      let found ← entryOf number line
      let more ← entriesOf (number + 1) rest
      return found.toList ++ more

def entries (log : ByteArray) : Except LogError (List AuditEntry) :=
  entriesOf 1 (lines log)

/-- The entries of a log that may not be there. -/
def open? (log : Option ByteArray) : Except LogError (List AuditEntry) :=
  match log with
  | some log => entries log
  | none => .error .missing

/-- A window on the last `n` entries, moved on by one entry. -/
def slide (n : Nat) (window : List AuditEntry) (entry : AuditEntry) : List AuditEntry :=
  if n = 0 then window
  else if window.length = n then window.tail ++ [entry]
  else window ++ [entry]

/-- Moves a window over the entries of lines that are numbered from `number` on. -/
def tailOf (n number : Nat) (window : List AuditEntry) :
    List (List UInt8) → Except LogError (List AuditEntry)
  | [] => .ok window
  | line :: rest => do
      match ← entryOf number line with
      | some entry => tailOf n (number + 1) (slide n window entry) rest
      | none => tailOf n (number + 1) window rest

/-- The last `n` entries of a log, of which no more than `n` are ever held. -/
def tail (log : ByteArray) (n : Nat) : Except LogError (List AuditEntry) := do
  (setAside AuditEntry.footprint n).mapError .faulted
  tailOf n 1 [] (lines log)

/-- The last `n` entries of a log that may not be there. -/
def tail? (log : Option ByteArray) (n : Nat) : Except LogError (List AuditEntry) :=
  match log with
  | some log => tail log n
  | none => .error .missing

end AuditLog

end Vivarium
