/-!
# JSON values as written

The tree keeps what a reader may still have to decide. A number is its
literal, because whether it becomes an integer, a single or a double depends on
the field it lands in. A string is absent when its escapes do not form a text,
and a value nested too deeply leaves only a mark: both are harmless in a field
nobody asks for, and refuse to be read anywhere else.
-/

namespace Vivarium

/-- A number literal: no fraction digits means no point was written. -/
structure Json.Literal where
  negative : Bool
  whole : List Char
  fraction : List Char
  exponent : Option Int
  deriving DecidableEq, Repr

/-- A JSON value. -/
inductive Json where
  | null
  | bool (value : Bool)
  | number (literal : Json.Literal)
  | string (text : Option String)
  | array (items : List Json)
  | object (members : List (Option String × Json))
  | buried
  deriving Repr

namespace Json

/-- How many arrays and objects may enclose one another in a value that is read. -/
def deepest : Nat := 127

/-- A text as a value. -/
def text (s : String) : Json :=
  .string (some s)

/-- An object with the given members, in order. -/
def record (members : List (String × Json)) : Json :=
  .object (members.map fun (name, value) => (some name, value))

end Json

end Vivarium
