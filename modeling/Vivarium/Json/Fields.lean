import Vivarium.Json.Literal

/-!
# Typed values out of JSON

A record may be written as an object or as the array of its fields in order.
An object may hold other members besides, which are not looked at; a field it
names twice makes it unreadable. An array may only be cut short, and only
where the fields left out have a value to fall back on.

Alternatives are told apart by a tag. Where the tag must be found before the
rest can be read, the rest is held until then, and holding a value reads all of
it: every string must have a text, every number a value, and nothing may be
nested too deeply. Inside of a held value an alternative may also be named by
its position.
-/

namespace Vivarium.Json

/-- Whether a value is read where it stands or out of a held one. -/
inductive Manner where
  | direct
  | held
  deriving DecidableEq, Repr

def asBool : Json → Option Bool
  | .bool b => some b
  | _ => none

def asText : Json → Option String
  | .string s => s
  | _ => none

def asNatBelow (bound : Nat) : Json → Option Nat
  | .number l =>
      match l.toInt? with
      | some (.ofNat n) => if n < bound then some n else none
      | _ => none
  | _ => none

/-- A natural number of 64 bits. -/
def asNat : Json → Option Nat :=
  asNatBelow wordBound

/-- A natural number of 32 bits. -/
def asWord : Json → Option UInt32 :=
  fun value => (asNatBelow UInt32.size value).map UInt32.ofNat

def asSingle : Json → Option Float32
  | .number l => l.toSingle?
  | _ => none

def asDouble : Json → Option Float
  | .number l => l.toDouble?
  | _ => none

/-- Null, or a value. -/
def asOption (read : Json → Option α) : Json → Option (Option α)
  | .null => some none
  | value => (read value).map some

/-- The items of an array, each read the same way. -/
def asList (read : Json → Option α) : Json → Option (List α)
  | .array items => items.mapM read
  | _ => none

/-- An array of exactly two. -/
def asPair (read : Json → Option α) : Json → Option (α × α)
  | .array [x, y] => do return (← read x, ← read y)
  | _ => none

mutual

/-- Whether all of a value can be read. -/
def readable : Json → Bool
  | .null => true
  | .bool _ => true
  | .number l => l.toDouble?.isSome
  | .string s => s.isSome
  | .array xs => readableItems xs
  | .object ms => readableMembers ms
  | .buried => false

def readableItems : List Json → Bool
  | [] => true
  | x :: xs => readable x && readableItems xs

/-- Whether all members can be read, their names too. -/
def readableMembers : List (Option String × Json) → Bool
  | [] => true
  | (key, x) :: ms => key.isSome && readable x && readableMembers ms

end

/-- The position of `name` among `names`. -/
def position? (names : List String) (name : String) : Option Nat :=
  names.findIdx? (· == name)

/-- An alternative without content: its name, or an object with the name and null. -/
def asName (manner : Manner) (names : List String) : Json → Option Nat
  | .string (some name) => position? names name
  | .object [(some name, .null)] => position? names name
  | .object [(some name, .object [])] =>
      if manner = .held then position? names name else none
  | _ => none

/-- The tag of an alternative: its name, or where it is held its position. -/
def asTag (manner : Manner) (names : List String) : Json → Option Nat
  | .string (some name) => position? names name
  | .number l =>
      if manner = .held then asNatBelow names.length (.number l) else none
  | _ => none

/-- The fields of a record, found by name or given in order. -/
structure Fields where
  ordered : Bool
  found : List (String × Json)

namespace Fields

/-- Whether no name occurs twice. -/
def distinct : List (String × Json) → Bool
  | [] => true
  | (name, _) :: rest => rest.all (·.1 != name) && distinct rest

/-- The members of an object that bear one of the names. -/
def named (names : List String) : List (Option String × Json) → Option (List (String × Json))
  | [] => some []
  | (none, _) :: _ => none
  | (some name, value) :: rest =>
      (named names rest).map fun found =>
        if names.contains name then (name, value) :: found else found

/-- The fields of a record that has the given names. -/
def of (names : List String) : Json → Option Fields
  | .array items =>
      if items.length ≤ names.length then some { ordered := true, found := names.zip items }
      else none
  | .object members => do
      let found ← named names members
      if distinct found then some { ordered := false, found } else none
  | _ => none

/-- The value of a field, if it is there. -/
def get? (fields : Fields) (name : String) : Option Json :=
  fields.found.lookup name

/-- A field that must be there. -/
def required (fields : Fields) (name : String) (read : Json → Option α) : Option α := do
  read (← fields.get? name)

/-- A field with a value to fall back on. -/
def withDefault (fields : Fields) (name : String) (fallback : α) (read : Json → Option α) :
    Option α :=
  match fields.get? name with
  | some value => read value
  | none => some fallback

/-- A field that may be null, and in an object also missing. -/
def optional (fields : Fields) (name : String) (read : Json → Option α) : Option (Option α) :=
  match fields.get? name with
  | some value => asOption read value
  | none => if fields.ordered then none else some none

end Fields

/--
Splits a tagged value into the tag and what it tags: the object without the tag, or the array
after it. What is tagged is held.
-/
def tagged (tag : String) : Json → Option (Json × Json)
  | .array (first :: rest) => if readableItems rest then some (first, .array rest) else none
  | .object members =>
      match members.partition (·.1 == some tag) with
      | ([(_, value)], rest) => if readableMembers rest then some (value, .object rest) else none
      | _ => none
  | _ => none

end Vivarium.Json
