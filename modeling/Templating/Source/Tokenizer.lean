import Templating.Source.Region

/-! # Tokenizing

A source is text with regions in it. Each region starts at the first place where an opener stands, the
longest one if several do, and ends with the closer of that opener. The next place of each opener is
remembered until the tokenizer has passed it, so no part of the source is searched twice for the same
opener.

Lines are counted in words of 32 bits. How a word is added up is a parameter, `sum`, so that the lines can
be compared with those of a count without bound.
-/

namespace Templating.Source

/-- The opener of a region, with the closer that ends it. -/
structure Opener where
  /-- What it opens. -/
  region : Region
  /-- Its mark. -/
  opening : String
  /-- The mark that closes the region. -/
  closing : String
deriving Repr, DecidableEq, BEq

/-- The openers that delimiters give. -/
def openers (d : Delimiters) : List Opener :=
  [⟨.tag, d.tag.opening, d.tag.closing⟩, ⟨.expression, d.expression.opening, d.expression.closing⟩]
    ++ (d.comment.map fun pair => ⟨.comment, pair.opening, pair.closing⟩).toList

/-- How far into a text a piece first occurs. -/
def offsetOf? (piece : List Char) : List Char → Option Nat
  | [] => if piece.isEmpty then some 0 else none
  | c :: rest => if piece.isPrefixOf (c :: rest) then some 0 else (offsetOf? piece rest).map (· + 1)

/-- An opener with what is known of its next place: nothing yet, or the answer of the last search. -/
structure Finder where
  /-- The opener. -/
  opener : Opener
  /-- The answer of the last search. -/
  known : Option (Option Nat) := none
deriving Repr, DecidableEq, BEq

namespace Finder

/-- Searches for the opener from a position on, where `unread` is the source from there. -/
def search (f : Finder) (position : Nat) (unread : List Char) : Option Nat :=
  (offsetOf? f.opener.opening.toList unread).map (position + ·)

/-- The next place of the opener, from memory if the last answer still holds. -/
def next (f : Finder) (position : Nat) (unread : List Char) : Option Nat :=
  match f.known with
  | some none => none
  | some (some place) => if position ≤ place then some place else f.search position unread
  | none => f.search position unread

/-- The finder with the next place remembered. -/
def remember (f : Finder) (position : Nat) (unread : List Char) : Finder :=
  { f with known := some (f.next position unread) }

end Finder

/-- Whether an opener at a place is preferred to the best one so far: the earlier, then the longer in
bytes. -/
def isBetter (place : Nat) (opener : Opener) (best : Option (Nat × Opener)) : Bool :=
  match best with
  | none => true
  | some (bestPlace, bestOpener) =>
    decide (place < bestPlace)
      || (place == bestPlace && decide (bestOpener.opening.utf8ByteSize < opener.opening.utf8ByteSize))

/-- The opener that starts the next region, with its place. -/
def chooseOpener (finders : List Finder) (position : Nat) (unread : List Char) : Option (Nat × Opener) :=
  finders.foldl
    (fun best f =>
      match f.next position unread with
      | none => best
      | some place => if isBetter place f.opener best then some (place, f.opener) else best)
    none

/-- The token of a stretch of text, unless nothing is left of it once the blanks are removed that the
regions around it ask for. -/
def textTokens (sum : Nat → Nat → Nat) (line : Nat) (trimsStart trimsEnd : Bool) (text : List Char) : List Token :=
  let kept := if trimsStart then Text.trimStart text else text
  let line := if trimsStart then sum line (countLines (text.takeWhile Text.isBlank)) else line
  let kept := if trimsEnd then Text.trimEnd kept else kept
  if kept.isEmpty then [] else [⟨.text, String.ofList kept, line⟩]

/-- Skips a comment up to its closer. A trim mark at the end of the comment removes the blanks behind it. -/
def skipComment (sum : Nat → Nat → Nat) (trim : Char) (close : String) (unterminated : LexError) (line : Nat)
    (text : List Char) : Except LexError RegionEnd :=
  match offsetOf? close.toList text with
  | none => .error unterminated
  | some size =>
    let body := text.take size
    .ok ⟨[], sum line (countLines body), body.getLast? == some trim, text.drop (size + close.length)⟩

/-- Reads a region behind its opener. -/
def readSection (sum : Nat → Nat → Nat) (v : Vocabulary) (opener : Opener) (unterminated : LexError)
    (line : Nat) (text : List Char) : Except LexError RegionEnd :=
  match opener.region with
  | .comment => skipComment sum v.delimiters.trim opener.closing unterminated line text
  | .tag => do
    let done ← readRegion sum v opener.closing .tagEnd unterminated true line text
    return { done with tokens := ⟨.tagStart, "", line⟩ :: done.tokens }
  | .expression => do
    let done ← readRegion sum v opener.closing .expressionEnd unterminated false line text
    return { done with tokens := ⟨.expressionStart, "", line⟩ :: done.tokens }

/-- The tokens of the rest of a source. `position` is how much has been read, `trims` whether the last
region removes the blanks behind it. A region takes at least its opener; should the delimiters be empty,
reading stops at the first region that takes nothing. -/
def scan (sum : Nat → Nat → Nat) (v : Vocabulary) (finders : List Finder) (position line : Nat) (trims : Bool)
    (unread : List Char) : Except LexError (List Token) :=
  if unread.isEmpty then .ok [.eof line]
  else
    match chooseOpener finders position unread with
    | none => .ok (textTokens sum line trims false unread ++ [.eof (sum line (countLines unread))])
    | some (place, opener) =>
      let before := unread.take (place - position)
      let region := unread.drop (place - position)
      let behind := region.drop opener.opening.length
      let trimsBefore := behind.head? == some v.delimiters.trim
      let inside := if trimsBefore then behind.drop 1 else behind
      let openLine := sum line (countLines before)
      let unterminated := LexError.atPlace (.unterminatedRegion opener.region) openLine region
      match readSection sum v opener unterminated openLine inside with
      | .error e => .error e
      | .ok done =>
        if done.rest.length < unread.length then do
          let finders := finders.map (·.remember position unread)
          let position := position + (unread.length - done.rest.length)
          let later ← scan sum v finders position done.line done.trims done.rest
          return textTokens sum line trims trimsBefore before ++ done.tokens ++ later
        else .ok (textTokens sum line trims trimsBefore before ++ done.tokens)
termination_by unread.length

/-- Splits a source into tokens, of which the last one is the end of the source, with a way to count lines. -/
def tokenizeBy (sum : Nat → Nat → Nat) (v : Vocabulary) (source : String) : Except LexError (List Token) :=
  scan sum v ((openers v.delimiters).map fun opener => { opener := opener }) 0 1 false source.toList

/-- Splits a source into tokens, whose lines are words. -/
def tokenize (v : Vocabulary) (source : String) : Except LexError (List Token) :=
  tokenizeBy wordBehind v source

end Templating.Source
