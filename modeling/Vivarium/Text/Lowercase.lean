import Vivarium.Text.CaseTables

/-!
# Lower case

Each character maps by itself to its lower-case letter, with two exceptions.
The capital I with a dot becomes an i and a combining dot. The capital sigma
becomes a final sigma at the end of a word: a cased letter comes before it and
none after it, where characters that case ignores are looked through.
-/

namespace Vivarium.Text

/-- The distance to the lower-case letter, for a character in the run. -/
def CaseRun.shift? (run : CaseRun) (c : Char) : Option Int :=
  let n := c.toNat
  if run.first ≤ n ∧ n ≤ run.last ∧ (n - run.first) % run.step = 0 then some run.shift else none

/-- The lower-case letter of a character, or the character itself. -/
def lowerChar (c : Char) : Char :=
  match lowerRuns.findSome? (·.shift? c) with
  | some shift => Char.ofNat (c.toNat + shift).toNat
  | none => c

/-- Whether the first character that case does not ignore is cased. -/
def meetsCased (s : List Char) : Bool :=
  match s.dropWhile (inRanges ignorableRanges) with
  | [] => false
  | c :: _ => inRanges casedRanges c

/-- The sigma that stands between two texts, the earlier one given backwards. -/
def sigma (before after : List Char) : Char :=
  if meetsCased before && !meetsCased after then 'ς' else 'σ'

/-- The lower case of a text that follows `before`, which is given backwards. -/
def lowerFrom (before : List Char) : List Char → List Char
  | [] => []
  | c :: rest =>
      let letters :=
        if c == 'Σ' then [sigma before rest]
        else if c == 'İ' then ['i', '\u0307']
        else if c.toNat < 128 then [c.toLower]
        else [lowerChar c]
      letters ++ lowerFrom (c :: before) rest

def lowercase (s : String) : String :=
  String.ofList (lowerFrom [] s.toList)

end Vivarium.Text
