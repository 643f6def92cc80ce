/-!
# Blank characters

A property of characters is a table of ranges of code points, first and last,
in rising order. Membership asks whether some range holds the code point.

The blanks are the characters with the property `White_Space`: twenty-five of
them, from the tab to the ideographic space. The zero-width space and the byte
order mark are not among them. Words are what blanks separate, and trimming
drops blanks from both ends.
-/

namespace Vivarium.Text

/-- Whether a code point lies in one of the ranges. -/
def inRanges (table : List (Nat × Nat)) (c : Char) : Bool :=
  table.any fun (first, last) => first ≤ c.toNat && c.toNat ≤ last

/-- The ranges of `White_Space`. -/
def blankRanges : List (Nat × Nat) :=
  [
    (0x9, 0xd), (0x20, 0x20), (0x85, 0x85), (0xa0, 0xa0), (0x1680, 0x1680),
    (0x2000, 0x200a), (0x2028, 0x2029), (0x202f, 0x202f), (0x205f, 0x205f), (0x3000, 0x3000)
  ]

def isBlank (c : Char) : Bool :=
  inRanges blankRanges c

def skipBlanks (s : List Char) : List Char :=
  s.dropWhile isBlank

/-- Whether a text holds nothing but blanks. -/
def allBlank (s : String) : Bool :=
  s.toList.all isBlank

/-- Collects words from the right: the word being read, and the words after it. -/
def splitWords : List Char → List Char × List (List Char)
  | [] => ([], [])
  | c :: rest =>
      let (word, words) := splitWords rest
      if isBlank c then ([], if word.isEmpty then words else word :: words)
      else (c :: word, words)

/-- The words of a text: the longest runs of characters that are not blank. -/
def words (s : String) : List String :=
  let (word, rest) := splitWords s.toList
  (if word.isEmpty then rest else word :: rest).map String.ofList

end Vivarium.Text
