import Vivarium.Json.Literal

/-!
# Tokens of JSON text

A text is a sequence of tokens with blanks between them, and the grammar of
values never needs to look at a character. Numbers and words end where their
characters end, so two of them only come apart if something separates them;
a sequence of tokens that belongs to a value always has it.

Strings take two steps. The characters between the quotes become pieces: a
character, or one 16-bit unit of an escape. Then the pieces are joined, a high
and a low unit into one character. Units without their other half have no
character, and leave the string without a text.
-/

namespace Vivarium.Json

/-- The smallest unit of JSON grammar. -/
inductive Token where
  | openArray
  | closeArray
  | openObject
  | closeObject
  | comma
  | colon
  | null
  | bool (value : Bool)
  | number (literal : Literal)
  | string (text : Option String)
  deriving Repr

/-- The blanks that may stand between tokens. -/
def isGap (c : Char) : Bool :=
  c == ' ' || c == '\n' || c == '\t' || c == '\r'

/-- Part of a string: a character, or a unit that an escape spells in hexadecimal. -/
inductive Piece where
  | char (c : Char)
  | unit (n : Nat)
  deriving Repr

/-- The value of a hexadecimal digit of either case. -/
def hexValue? (c : Char) : Option Nat :=
  if '0' ≤ c && c ≤ '9' then some (c.toNat - '0'.toNat)
  else if 'a' ≤ c && c ≤ 'f' then some (c.toNat - 'a'.toNat + 10)
  else if 'A' ≤ c && c ≤ 'F' then some (c.toNat - 'A'.toNat + 10)
  else none

/-- The unit that four hexadecimal digits spell. -/
def unitOf? (a b c d : Char) : Option Nat := do
  return (((← hexValue? a) * 16 + (← hexValue? b)) * 16 + (← hexValue? c)) * 16 + (← hexValue? d)

/-- The character of a one-letter escape. -/
def escaped? (c : Char) : Option Char :=
  match c with
  | '"' => some '"'
  | '\\' => some '\\'
  | '/' => some '/'
  | 'b' => some '\x08'
  | 'f' => some '\x0c'
  | 'n' => some '\n'
  | 'r' => some '\r'
  | 't' => some '\t'
  | _ => none

/-- Reads to the closing quote; `seen` holds the pieces so far, last first. -/
def pieces (seen : List Piece) : List Char → Option (List Piece × List Char)
  | [] => none
  | '"' :: rest => some (seen.reverse, rest)
  | '\\' :: 'u' :: a :: b :: c :: d :: rest =>
      match unitOf? a b c d with
      | some n => pieces (.unit n :: seen) rest
      | none => none
  | '\\' :: c :: rest =>
      match escaped? c with
      | some e => pieces (.char e :: seen) rest
      | none => none
  | c :: rest => if c < ' ' then none else pieces (.char c :: seen) rest

/-- The first half of a character outside the basic plane. -/
def isHigh (n : Nat) : Bool :=
  0xD800 ≤ n && n < 0xDC00

/-- The second half of a character outside the basic plane. -/
def isLow (n : Nat) : Bool :=
  0xDC00 ≤ n && n < 0xE000

/-- The character of a pair of halves. -/
def paired (high low : Nat) : Char :=
  Char.ofNat (0x10000 + (high - 0xD800) * 0x400 + (low - 0xDC00))

/-- The characters of a string, if every half has its other half next to it. -/
def join : List Piece → Option (List Char)
  | [] => some []
  | .char c :: rest => (join rest).map (c :: ·)
  | .unit n :: .unit m :: rest =>
      if isHigh n && isLow m then (join rest).map (paired n m :: ·)
      else if isHigh n || isLow n then none
      else (join (.unit m :: rest)).map (Char.ofNat n :: ·)
  | .unit n :: rest =>
      if isHigh n || isLow n then none else (join rest).map (Char.ofNat n :: ·)

/-- A string after its opening quote. -/
def quoted (rest : List Char) : Option (Option String × List Char) := do
  let (found, rest) ← pieces [] rest
  return ((join found).map String.ofList, rest)

/-- Digits, of which there must be one. -/
def digits (s : List Char) : Option (List Char × List Char) :=
  match s.takeWhile Char.isDigit with
  | [] => none
  | found => some (found, s.dropWhile Char.isDigit)

/-- Digits before the point: a zero stands alone. -/
def wholeDigits (s : List Char) : Option (List Char × List Char) :=
  match digits s with
  | some ('0' :: _ :: _, _) => none
  | found => found

/-- A point and the digits after it, if there is a point. -/
def fractionDigits : List Char → Option (List Char × List Char)
  | '.' :: rest => digits rest
  | rest => some ([], rest)

/-- An exponent after its letter. -/
def exponentDigits : List Char → Option (Int × List Char)
  | '-' :: rest => (digits rest).map fun (found, rest) => (-natOfDigits found, rest)
  | '+' :: rest => (digits rest).map fun (found, rest) => (natOfDigits found, rest)
  | rest => (digits rest).map fun (found, rest) => (natOfDigits found, rest)

/-- An exponent, if there is one. -/
def exponentPart : List Char → Option (Option Int × List Char)
  | 'e' :: rest => (exponentDigits rest).map fun (n, rest) => (some n, rest)
  | 'E' :: rest => (exponentDigits rest).map fun (n, rest) => (some n, rest)
  | rest => some (none, rest)

/-- A number after its sign. -/
def unsigned (negative : Bool) (s : List Char) : Option (Literal × List Char) := do
  let (whole, s) ← wholeDigits s
  let (fraction, s) ← fractionDigits s
  let (exponent, s) ← exponentPart s
  return ({ negative, whole, fraction, exponent }, s)

def numeral : List Char → Option (Literal × List Char)
  | '-' :: rest => unsigned true rest
  | rest => unsigned false rest

namespace Token

/-- The token that a text without leading blanks starts with. -/
def read : List Char → Option (Token × List Char)
  | '[' :: rest => some (.openArray, rest)
  | ']' :: rest => some (.closeArray, rest)
  | '{' :: rest => some (.openObject, rest)
  | '}' :: rest => some (.closeObject, rest)
  | ',' :: rest => some (.comma, rest)
  | ':' :: rest => some (.colon, rest)
  | 'n' :: 'u' :: 'l' :: 'l' :: rest => some (.null, rest)
  | 't' :: 'r' :: 'u' :: 'e' :: rest => some (.bool true, rest)
  | 'f' :: 'a' :: 'l' :: 's' :: 'e' :: rest => some (.bool false, rest)
  | '"' :: rest => (quoted rest).map fun (text, rest) => (.string text, rest)
  | s => (numeral s).map fun (l, rest) => (.number l, rest)

/-- All tokens of a text. Each step takes a character or more, so `fuel` is never short. -/
def scan : Nat → List Char → Option (List Token)
  | _, [] => some []
  | 0, _ => none
  | fuel + 1, c :: rest =>
      if isGap c then scan fuel rest
      else match read (c :: rest) with
        | some (token, rest) => (scan fuel rest).map (token :: ·)
        | none => none

def ofString (s : String) : Option (List Token) :=
  scan s.toList.length s.toList

end Token

end Vivarium.Json
