/-! # Blank characters

A property of characters is stored as a table of ranges of code points in ascending order, so a lookup stops
at the first range that starts past the character. The first such property is `White_Space`: blanks are
removed at either end of a text, and words stand between them.
-/

namespace Templating.Text

/-- The code points from `first` to `last`, both included. -/
structure CodeRange where
  /-- The lowest code point of the range. -/
  first : Nat
  /-- The highest code point of the range. -/
  last : Nat
deriving Repr, DecidableEq, BEq

namespace CodeRange

/-- Whether an ascending table of ranges holds the code point `code`. -/
def covers (code : Nat) : List CodeRange → Bool
  | [] => false
  | range :: later => decide (range.first ≤ code) && (decide (code ≤ range.last) || covers code later)

/-- Whether an ascending table of ranges holds the character `c`. -/
def holds (table : List CodeRange) (c : Char) : Bool :=
  covers c.toNat table

end CodeRange

/-- The Unicode property `White_Space`. -/
def blankRanges : List CodeRange := [
  ⟨0x9, 0xd⟩, ⟨0x20, 0x20⟩, ⟨0x85, 0x85⟩, ⟨0xa0, 0xa0⟩, ⟨0x1680, 0x1680⟩, ⟨0x2000, 0x200a⟩,
  ⟨0x2028, 0x2029⟩, ⟨0x202f, 0x202f⟩, ⟨0x205f, 0x205f⟩, ⟨0x3000, 0x3000⟩]

/-- Whether a character is blank. -/
def isBlank (c : Char) : Bool :=
  CodeRange.holds blankRanges c

/-- A text without the blanks in front. -/
def trimStart (text : List Char) : List Char :=
  text.dropWhile isBlank

/-- A text without the blanks behind. -/
def trimEnd (text : List Char) : List Char :=
  (text.reverse.dropWhile isBlank).reverse

/-- The words of a text between separators; `word` is what has been read of the current word, last
character first. -/
def splitWords (isSeparator : Char → Bool) (word : List Char) : List Char → List (List Char)
  | [] => if word.isEmpty then [] else [word.reverse]
  | c :: rest =>
    if isSeparator c then
      if word.isEmpty then splitWords isSeparator [] rest
      else word.reverse :: splitWords isSeparator [] rest
    else splitWords isSeparator (c :: word) rest

/-- The words between the separators of a text, without empty ones. -/
def wordsBetween (isSeparator : Char → Bool) (text : String) : List String :=
  (splitWords isSeparator [] text.toList).map String.ofList

/-- The words between the blanks of a text. -/
def words (text : String) : List String :=
  wordsBetween isBlank text

end Templating.Text
