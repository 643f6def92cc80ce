import Vivarium.Json.Token

/-!
# Writing a value

A value is written as the tokens of its grammar, each token as its characters.
The compact form puts nothing between tokens. The indented form starts a line
for every item and member, two blanks deeper than what encloses it, and keeps
empty arrays and objects closed up.
-/

namespace Vivarium.Json

/-- A hexadecimal digit in lower case. -/
def hexDigit (n : Nat) : Char :=
  Nat.digitChar n

/-- A character inside a string: quotes, backslashes and controls are escaped. -/
def escape (c : Char) : List Char :=
  match c with
  | '"' => ['\\', '"']
  | '\\' => ['\\', '\\']
  | '\x08' => ['\\', 'b']
  | '\x0c' => ['\\', 'f']
  | '\n' => ['\\', 'n']
  | '\r' => ['\\', 'r']
  | '\t' => ['\\', 't']
  | c =>
      if c < ' ' then
        ['\\', 'u', '0', '0', hexDigit (c.toNat / 16), hexDigit (c.toNat % 16)]
      else [c]

def quote (s : String) : List Char :=
  '"' :: (s.toList.flatMap escape ++ ['"'])

/-- An exponent with its letter and sign. -/
def exponentText : Option Int → List Char
  | none => []
  | some n => 'e' :: (if n < 0 then '-' else '+') :: Number.digitsOf n.natAbs

def Literal.chars (l : Literal) : List Char :=
  (if l.negative then ['-'] else []) ++ l.whole ++
    (if l.fraction.isEmpty then [] else '.' :: l.fraction) ++ exponentText l.exponent

/-- The characters of a token; a string without a text has none to show. -/
def Token.chars : Token → List Char
  | .openArray => ['[']
  | .closeArray => [']']
  | .openObject => ['{']
  | .closeObject => ['}']
  | .comma => [',']
  | .colon => [':']
  | .null => ['n', 'u', 'l', 'l']
  | .bool true => ['t', 'r', 'u', 'e']
  | .bool false => ['f', 'a', 'l', 's', 'e']
  | .number l => l.chars
  | .string s => quote (s.getD "")

mutual

/-- The tokens of a value, put before `rest`. -/
def tokens (rest : List Token) : Json → List Token
  | .null => .null :: rest
  | .bool b => .bool b :: rest
  | .number l => .number l :: rest
  | .string s => .string s :: rest
  | .array xs => .openArray :: itemTokens rest xs
  | .object ms => .openObject :: memberTokens rest ms
  | .buried => .null :: rest

/-- The tokens of items and the bracket that closes them. -/
def itemTokens (rest : List Token) : List Json → List Token
  | [] => .closeArray :: rest
  | [x] => tokens (.closeArray :: rest) x
  | x :: y :: xs => tokens (.comma :: itemTokens rest (y :: xs)) x

/-- The tokens of members and the brace that closes them. -/
def memberTokens (rest : List Token) : List (Option String × Json) → List Token
  | [] => .closeObject :: rest
  | [(key, x)] => .string key :: .colon :: tokens (.closeObject :: rest) x
  | (key, x) :: y :: ms => .string key :: .colon :: tokens (.comma :: memberTokens rest (y :: ms)) x

end

/-- A value on one line without blanks. -/
def compact (value : Json) : String :=
  String.ofList ((tokens [] value).flatMap Token.chars)

/-- The start of a line, `depth` levels in. -/
def line (depth : Nat) : String :=
  "\n" ++ String.ofList (List.replicate (2 * depth) ' ')

mutual

/-- A value over several lines, as it stands `depth` levels in. -/
def indented (depth : Nat) : Json → String
  | .array [] => "[]"
  | .array (x :: xs) => "[" ++ indentedItems (depth + 1) (x :: xs) ++ line depth ++ "]"
  | .object [] => "\x7b\x7d"
  | .object (m :: ms) => "\x7b" ++ indentedMembers (depth + 1) (m :: ms) ++ line depth ++ "\x7d"
  | value => compact value

/-- Items, a line each. -/
def indentedItems (depth : Nat) : List Json → String
  | [] => ""
  | [x] => line depth ++ indented depth x
  | x :: y :: xs => line depth ++ indented depth x ++ "," ++ indentedItems depth (y :: xs)

/-- Members, a line each. -/
def indentedMembers (depth : Nat) : List (Option String × Json) → String
  | [] => ""
  | [(key, x)] => line depth ++ String.ofList (quote (key.getD "")) ++ ": " ++ indented depth x
  | (key, x) :: y :: ms =>
      line depth ++ String.ofList (quote (key.getD "")) ++ ": " ++ indented depth x ++ "," ++
        indentedMembers depth (y :: ms)

end

/-- A value over several lines. -/
def pretty (value : Json) : String :=
  indented 0 value

end Vivarium.Json
