/-! # Searching in texts

Finding, splitting and replacing a piece of text. Pieces are found from left to right and never overlap.
-/

namespace Templating.Text

/-- Whether `piece` occurs in `text`. -/
def hasPiece (piece : List Char) : List Char → Bool
  | [] => piece.isEmpty
  | c :: rest => piece.isPrefixOf (c :: rest) || hasPiece piece rest

theorem length_of_isPrefixOf?_eq_some {piece text rest : List Char}
    (found : piece.isPrefixOf? text = some rest) : piece.length + rest.length = text.length := by
  induction piece generalizing text with
  | nil =>
    have same : text = rest := Option.some.inj found
    rw [same, List.length_nil, Nat.zero_add]
  | cons c piece ih =>
    cases text with
    | nil => cases found
    | cons d text =>
      change (if c == d then piece.isPrefixOf? text else none) = some rest at found
      split at found
      · have := ih found
        simp only [List.length_cons]
        omega
      · cases found

/-- The parts of `text` between the occurrences of the separator `first :: more`; `part` is what has been
read of the current part, last character first. -/
def splitParts (first : Char) (more : List Char) (part : List Char) (text : List Char) :
    List (List Char) :=
  match _found : (first :: more).isPrefixOf? text with
  | some rest => part.reverse :: splitParts first more [] rest
  | none =>
    match text with
    | [] => [part.reverse]
    | c :: rest => splitParts first more (c :: part) rest
termination_by text.length
decreasing_by
  · have := length_of_isPrefixOf?_eq_some _found
    simp only [List.length_cons] at this
    omega
  · simp

/-- The parts of a text between the occurrences of `separator`. An empty separator parts it into its
characters. -/
def split (separator text : String) : List String :=
  match separator.toList with
  | [] => text.toList.map String.singleton
  | first :: more => (splitParts first more [] text.toList).map String.ofList

/-- What `text` becomes with `replacement` in place of every occurrence of `first :: more`; `done` is what
stands in front of it, last character first. -/
def replaceParts (first : Char) (more replacement done text : List Char) : List Char :=
  match _found : (first :: more).isPrefixOf? text with
  | some rest => replaceParts first more replacement (replacement.reverse ++ done) rest
  | none =>
    match text with
    | [] => done.reverse
    | c :: rest => replaceParts first more replacement (c :: done) rest
termination_by text.length
decreasing_by
  · have := length_of_isPrefixOf?_eq_some _found
    simp only [List.length_cons] at this
    omega
  · simp

/-- A text with every occurrence of `piece` replaced. An empty piece occurs nowhere. -/
def replace (piece replacement text : String) : String :=
  match piece.toList with
  | [] => text
  | first :: more => String.ofList (replaceParts first more replacement.toList [] text.toList)

end Templating.Text
