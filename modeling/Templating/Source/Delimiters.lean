/-! # Delimiters

The marks that set tags, expressions and comments apart from the text of a template. They can be chosen
freely, as long as none is empty and no two of them open alike.
-/

namespace Templating

/-- The marks around one kind of region. -/
structure DelimiterPair where
  /-- The mark that opens the region. -/
  opening : String
  /-- The mark that closes the region. -/
  closing : String
deriving Repr, DecidableEq, BEq

/-- The marks of a template. -/
structure Delimiters where
  /-- The marks around tags. -/
  tag : DelimiterPair := ⟨"\x7b%", "%\x7d"⟩
  /-- The marks around expressions. -/
  expression : DelimiterPair := ⟨"\x7b\x7b", "\x7d\x7d"⟩
  /-- The marks around comments, if there are comments. -/
  comment : Option DelimiterPair := some ⟨"\x7b#", "#\x7d"⟩
  /-- The character beside a mark that removes the blanks on the other side of the mark. -/
  trim : Char := '-'
deriving Repr, DecidableEq, BEq

/-- Why delimiters cannot be used. -/
inductive DelimiterFault where
  /-- A mark of the named pair is empty. -/
  | empty (pair : String)
  /-- Two named pairs open alike. -/
  | sharedOpener (first second opening : String)
deriving Repr, DecidableEq, BEq

/-- The message of a fault. -/
def DelimiterFault.message : DelimiterFault → String
  | empty pair => pair ++ " delimiters must not be empty"
  | sharedOpener first second opening =>
    first ++ " and " ++ second ++ " delimiters share the opener `" ++ opening ++ "`"

namespace Delimiters

/-- The pairs with their names. -/
def pairs (d : Delimiters) : List (String × DelimiterPair) :=
  [("tag", d.tag), ("expression", d.expression)] ++ (d.comment.map fun pair => ("comment", pair)).toList

/-- The first later pair that opens like this one. -/
def clash? (pair : String × DelimiterPair) (later : List (String × DelimiterPair)) :
    Option DelimiterFault :=
  (later.find? fun other => other.2.opening == pair.2.opening).map fun other =>
    .sharedOpener pair.1 other.1 pair.2.opening

/-- The first two pairs that open alike. -/
def firstClash? : List (String × DelimiterPair) → Option DelimiterFault
  | [] => none
  | pair :: later => (clash? pair later).or (firstClash? later)

/-- What is wrong with the delimiters, if anything is. -/
def fault? (d : Delimiters) : Option DelimiterFault :=
  let empty := (d.pairs.find? fun pair => pair.2.opening.isEmpty || pair.2.closing.isEmpty).map fun pair =>
    DelimiterFault.empty pair.1
  empty.or (firstClash? d.pairs)

end Delimiters

end Templating
