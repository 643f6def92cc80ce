import Vivarium.Json.Token

/-!
# Reading a value

The grammar is read off the tokens by recursive descent. `room` counts how many
more arrays and objects may open: where none may, the value is still checked
for its grammar but only a mark of it is kept. The fuel bounds the recursion;
a call spends one unit and every second call takes a token, so twice the
number of tokens is enough for any text.
-/

namespace Vivarium.Json

/-- Keeps a container only where there is room for it. -/
def housed (room : Nat) (value : Json) : Json :=
  if room = 0 then .buried else value

mutual

/-- One value and the tokens after it. -/
def value : Nat → Nat → List Token → Option (Json × List Token)
  | 0, _, _ => none
  | _, _, [] => none
  | fuel + 1, room, token :: rest =>
      match token with
      | .null => some (.null, rest)
      | .bool b => some (.bool b, rest)
      | .number l => some (.number l, rest)
      | .string s => some (.string s, rest)
      | .openArray =>
          match rest with
          | .closeArray :: rest => some (housed room (.array []), rest)
          | _ => (items fuel (room - 1) rest).map fun (xs, rest) => (housed room (.array xs), rest)
      | .openObject =>
          match rest with
          | .closeObject :: rest => some (housed room (.object []), rest)
          | _ =>
              (members fuel (room - 1) rest).map fun (ms, rest) =>
                (housed room (.object ms), rest)
      | _ => none

/-- The items of an array that has one, up to its closing bracket. -/
def items : Nat → Nat → List Token → Option (List Json × List Token)
  | 0, _, _ => none
  | fuel + 1, room, tokens =>
      match value fuel room tokens with
      | some (x, .comma :: rest) => (items fuel room rest).map fun (xs, rest) => (x :: xs, rest)
      | some (x, .closeArray :: rest) => some ([x], rest)
      | _ => none

/-- The members of an object that has one, up to its closing brace. -/
def members : Nat → Nat → List Token → Option (List (Option String × Json) × List Token)
  | 0, _, _ => none
  | fuel + 1, room, .string key :: .colon :: rest =>
      match value fuel room rest with
      | some (x, .comma :: rest) =>
          (members fuel room rest).map fun (ms, rest) => ((key, x) :: ms, rest)
      | some (x, .closeObject :: rest) => some ([(key, x)], rest)
      | _ => none
  | _, _, _ => none

end

/-- The value a text holds, with nothing but blanks around it. -/
def parse (s : String) : Option Json := do
  let tokens ← Token.ofString s
  match value (2 * tokens.length) deepest tokens with
  | some (found, []) => some found
  | _ => none

end Vivarium.Json
