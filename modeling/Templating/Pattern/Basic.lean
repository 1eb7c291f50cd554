import Templating.Pattern.Classes
import Templating.Text.Blank

/-! # Patterns

Regular expressions over characters, and the search for them in a text. A pattern is run on a set of
positions: it carries every position where it may start to the positions where it may end.
-/

namespace Templating.Pattern

open Text (CodeRange)

/-- A set of characters. -/
inductive CharSet where
  /-- No character. -/
  | none
  /-- The characters from `first` to `last`. -/
  | range (first last : Char)
  /-- The characters of a table. -/
  | table (ranges : List CodeRange)
  /-- The characters that differ at most in case from one of the set. -/
  | folded (set : CharSet)
  /-- The characters outside the set. -/
  | complement (set : CharSet)
  /-- The characters of either set. -/
  | union (left right : CharSet)
  /-- The characters of both sets. -/
  | intersection (left right : CharSet)
deriving Repr, Inhabited

namespace CharSet

/-- Whether a set holds a character. -/
def has : CharSet → Char → Bool
  | none, _ => false
  | range first last, c => decide (first.toNat ≤ c.toNat) && decide (c.toNat ≤ last.toNat)
  | table ranges, c => CodeRange.holds ranges c
  | folded set, c => has set c || (siblings c).any (has set)
  | complement set, c => !has set c
  | union left right, c => has left c || has right c
  | intersection left right, c => has left c && has right c

/-- One character. -/
def single (c : Char) : CharSet :=
  range c c

/-- Every character. -/
def all : CharSet :=
  complement none

end CharSet

/-- A condition on a position of the text. -/
inductive Assertion where
  /-- The start of the text. -/
  | textStart
  /-- The end of the text. -/
  | textEnd
  /-- The start of a line. -/
  | lineStart
  /-- The end of a line. -/
  | lineEnd
  /-- The start of a line, where a carriage return and a line feed in a row end one line. -/
  | returnLineStart
  /-- The end of a line, where a carriage return and a line feed in a row end one line. -/
  | returnLineEnd
  /-- A word starts or ends. -/
  | wordBoundary
  /-- No word starts or ends. -/
  | noWordBoundary
  /-- A word starts. -/
  | wordStart
  /-- A word ends. -/
  | wordEnd
  /-- No character of a word stands before. -/
  | wordStartHalf
  /-- No character of a word stands behind. -/
  | wordEndHalf
deriving Repr, DecidableEq, BEq

/-- A regular expression. -/
inductive Expr where
  /-- The empty text. -/
  | empty
  /-- One character of a set. -/
  | one (set : CharSet)
  /-- The empty text where a condition holds. -/
  | assert (condition : Assertion)
  /-- One expression after the other. -/
  | seq (first second : Expr)
  /-- Either expression. -/
  | alt (left right : Expr)
  /-- The expression repeated at least `least` and at most `most` times. -/
  | repeated (body : Expr) (least : Nat) (most : Option Nat)
deriving Repr, Inhabited

/-- Whether a character belongs to a word. -/
def isWord (c : Char) : Bool :=
  CodeRange.holds wordRanges c

namespace Assertion

/-- Whether a condition holds between two characters, of which either may be missing. -/
def between (before after : Option Char) : Assertion → Bool
  | textStart => before.isNone
  | textEnd => after.isNone
  | lineStart => before.all (· == '\n')
  | lineEnd => after.all (· == '\n')
  | returnLineStart => before.all fun c => c == '\n' || (c == '\r' && after != some '\n')
  | returnLineEnd => after.all fun c => c == '\r' || (c == '\n' && before != some '\r')
  | wordBoundary => before.any isWord != after.any isWord
  | noWordBoundary => before.any isWord == after.any isWord
  | wordStart => !before.any isWord && after.any isWord
  | wordEnd => before.any isWord && !after.any isWord
  | wordStartHalf => !before.any isWord
  | wordEndHalf => !after.any isWord

/-- Whether a condition holds at a position of a text. -/
def holdsAt (text : Array Char) (position : Nat) (condition : Assertion) : Bool :=
  condition.between (if position = 0 then none else text[position - 1]?) text[position]?

end Assertion

/-- The positions of two ascending lists in one. -/
def mergePositions : List Nat → List Nat → List Nat
  | [], right => right
  | left, [] => left
  | a :: as, b :: bs =>
    if a < b then a :: mergePositions as (b :: bs)
    else if b < a then b :: mergePositions (a :: as) bs
    else a :: mergePositions as bs
termination_by left right => left.length + right.length

/-- The positions after exactly `count` steps. -/
def stepTimes (step : List Nat → List Nat) : Nat → List Nat → List Nat
  | 0, positions => positions
  | count + 1, positions => stepTimes step count (step positions)

/-- The positions after at most `count` steps. -/
def stepUpTo (step : List Nat → List Nat) : Nat → List Nat → List Nat
  | 0, positions => positions
  | count + 1, positions => mergePositions positions (stepUpTo step count (step positions))

namespace Expr

/-- Carries the positions where an expression may start to the positions where it may end. More
repetitions than the text has positions change nothing. -/
def run (text : Array Char) : Expr → List Nat → List Nat
  | empty, positions => positions
  | one set, positions =>
    positions.filterMap fun i => if text[i]?.any set.has then some (i + 1) else none
  | assert condition, positions => positions.filter fun i => condition.holdsAt text i
  | seq first second, positions => second.run text (first.run text positions)
  | alt left right, positions => mergePositions (left.run text positions) (right.run text positions)
  | repeated body least most, positions =>
    let bound := text.size + 1
    let begun := stepTimes (body.run text) (min least bound) positions
    match most with
    | none => stepUpTo (body.run text) bound begun
    | some most => stepUpTo (body.run text) (min (most - least) bound) begun

/-- Whether an expression matches somewhere in a text. -/
def occursIn (expr : Expr) (text : List Char) : Bool :=
  let characters := text.toArray
  !(expr.run characters (List.range (characters.size + 1))).isEmpty

/-- The number of single characters an expression is made of when its repetitions are written out. -/
def size : Expr → Nat
  | empty => 1
  | one _ => 1
  | assert _ => 1
  | seq first second => first.size + second.size
  | alt left right => left.size + right.size + 1
  | repeated body least most => body.size * (most.getD (least + 1)) + 1

end Expr

end Templating.Pattern
