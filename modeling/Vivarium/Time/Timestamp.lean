import Vivarium.Time.Calendar
import Vivarium.Text.Blank
import Vivarium.Number.Text
import Vivarium.Json.Literal

/-!
# Points in time

A timestamp is a day, a second of the day and nanoseconds, in universal time.
A leap second has no second of its own: it is kept as the fifty-ninth with a
thousand million nanoseconds more, and so sorts after all of the fifty-ninth
and before the next minute.

Reading is lenient about how a time is laid out and strict about what it says.
Blanks may stand before numbers, leading zeros may be missing, and the offset
may be a letter, a word or hours and minutes; but the date must exist, and so
must the same moment in universal time.
-/

namespace Vivarium

/-- A moment in universal time. -/
structure Timestamp where
  day : Int
  second : Nat
  nano : Nat
  deriving DecidableEq, Repr

namespace Timestamp

open Time Text

/-- Whether one moment is no later than another. -/
def le (a b : Timestamp) : Bool :=
  if a.day = b.day then
    if a.second = b.second then a.nano ≤ b.nano else a.second < b.second
  else a.day < b.day

/-- The first moment of 1970. -/
def epoch : Timestamp :=
  { day := 0, second := 0, nano := 0 }

def nanos : Nat := 1000000000

def daySeconds : Nat := 86400

/-- The first and the last year that are kept. -/
def years : Int × Int := (-262143, 262142)

def keepsYear (year : Int) : Bool :=
  years.1 ≤ year && year ≤ years.2

/-! ## Writing -/

/-- A year; outside of four digits it has a sign. -/
def yearText (year : Int) : String :=
  if 0 ≤ year ∧ year ≤ 9999 then Number.padded 4 year.toNat
  else (if year < 0 then "-" else "+") ++ Number.padded 4 year.natAbs

/-- A fraction of a second: none, or the fewest of three, six or nine digits. -/
def fractionText (nano : Nat) : String :=
  if nano = 0 then ""
  else if nano % 1000000 = 0 then "." ++ Number.padded 3 (nano / 1000000)
  else if nano % 1000 = 0 then "." ++ Number.padded 6 (nano / 1000)
  else "." ++ Number.padded 9 nano

def date (t : Timestamp) : Date :=
  .ofDays t.day

def text (t : Timestamp) : String :=
  let leap := t.nano / nanos
  let pair := Number.padded 2
  yearText t.date.year ++ "-" ++ pair t.date.month ++ "-" ++ pair t.date.day ++ "T" ++
    pair (t.second / 3600) ++ ":" ++ pair (t.second / 60 % 60) ++ ":" ++
    pair (t.second % 60 + leap) ++ fractionText (t.nano % nanos) ++ "Z"

/-! ## Reading -/

/-- One or more digits, at most `most`. -/
def number (most : Nat) (s : List Char) : Option (Nat × List Char) :=
  match (s.take most).takeWhile Char.isDigit with
  | [] => none
  | found => some (Json.natOfDigits found, s.drop found.length)

/-- A number of at most two digits, after blanks. -/
def field (s : List Char) : Option (Nat × List Char) :=
  number 2 (skipBlanks s)

/-- A year: four digits at most, or any number of them after a sign. -/
def yearField (s : List Char) : Option (Int × List Char) :=
  match skipBlanks s with
  | '-' :: rest => (number rest.length rest).map fun (n, rest) => (-n, rest)
  | '+' :: rest => (number rest.length rest).map fun (n, rest) => (n, rest)
  | rest => (number 4 rest).map fun (n, rest) => (n, rest)

/-- A mark, after blanks. -/
def mark (c : Char) (s : List Char) : Option (List Char) :=
  match skipBlanks s with
  | first :: rest => if first = c then some rest else none
  | [] => none

/-- What separates a date from a time. -/
def separator : List Char → Option (List Char)
  | 'T' :: rest => some rest
  | 't' :: rest => some rest
  | ' ' :: rest => some rest
  | _ => none

/-- A fraction of a second in nanoseconds; digits after the ninth do not count. -/
def fraction : List Char → Option (Nat × List Char)
  | '.' :: rest => do
      let (n, after) ← number 9 rest
      let places := rest.length - after.length
      return (n * Nat.pow 10 (9 - places), after.dropWhile Char.isDigit)
  | rest => some (0, rest)

def twoDigits : List Char → Option (Nat × List Char)
  | a :: b :: rest =>
      if a.isDigit && b.isDigit then some (Json.natOfDigits [a, b], rest) else none
  | _ => none

/-- Hours and minutes, in seconds. -/
def hoursMinutes (s : List Char) : Option (Nat × List Char) := do
  let (hours, s) ← twoDigits s
  let (minutes, s) ← twoDigits (s.dropWhile fun c => c == ':' || isBlank c)
  if minutes < 60 then some (hours * 3600 + minutes * 60, s) else none

/-- An offset from universal time, in seconds. -/
def offset : List Char → Option (Int × List Char)
  | 'Z' :: rest => some (0, rest)
  | 'z' :: rest => some (0, rest)
  | '+' :: rest => (hoursMinutes rest).map fun (n, rest) => (n, rest)
  | '-' :: rest => (hoursMinutes rest).map fun (n, rest) => (-n, rest)
  | '−' :: rest => (hoursMinutes rest).map fun (n, rest) => (-n, rest)
  | u :: t :: c :: rest =>
      if [u, t, c].map Char.toUpper = ['U', 'T', 'C'] then some (0, rest) else none
  | _ => none

/-- The moment that a date, a time of day and an offset name. -/
def assemble (date : Date) (hour minute second nano : Nat) (offset : Int) : Option Timestamp :=
  if keepsYear date.year && date.valid && hour < 24 && minute < 60 && second ≤ 60 &&
      offset.natAbs < daySeconds then
    let leap := second / 60
    let clock : Int := hour * 3600 + minute * 60 + (second - leap : Nat) - offset
    let moment : Timestamp :=
      { day := date.toDays + clock / daySeconds
        second := (clock % daySeconds).toNat
        nano := nano + leap * nanos }
    -- The offset may have moved the moment into another year.
    if keepsYear moment.date.year then some moment else none
  else none

def read? (s : String) : Option Timestamp := do
  let (year, s) ← yearField s.toList
  let (month, s) ← field (← mark '-' s)
  let (day, s) ← field (← mark '-' s)
  let (hour, s) ← field (← separator s)
  let (minute, s) ← field (← mark ':' s)
  let (second, s) ← field (← mark ':' s)
  let (nano, s) ← fraction s
  let (offset, s) ← offset (skipBlanks s)
  if (skipBlanks s).isEmpty then assemble { year, month, day } hour minute second nano offset
  else none

end Timestamp

end Vivarium
