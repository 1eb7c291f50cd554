import Templating.Value.Basic
import Templating.Text.Quoted

/-! # Annotations

Named remarks on a node of a template tree: what a tag noted when it was read, and what later passes found
out about it.
-/

namespace Templating

/-- The content of an annotation. -/
inductive Annotation where
  /-- A truth value. -/
  | bool (b : Bool)
  /-- A whole number. -/
  | int (n : Int)
  /-- A text. -/
  | text (s : String)
  /-- Several texts. -/
  | texts (items : List String)
deriving Repr, DecidableEq, BEq

/-- An annotation as a tree dump shows it. -/
def Annotation.dump : Annotation → String
  | bool b => if b then "true" else "false"
  | int n => toString n
  | text s => Text.quote s
  | texts items => "[" ++ String.intercalate ", " items ++ "]"

/-- The annotations of a node, in ascending order of their names. -/
structure Annotations where
  /-- The annotations under their names. -/
  entries : List (String × Annotation) := []
deriving Repr, DecidableEq, BEq, Inhabited

namespace Annotations

/-- The annotation with a name. -/
def get? (notes : Annotations) (key : String) : Option Annotation :=
  notes.entries.lookup key

/-- Whether there is an annotation with a name. -/
def contains (notes : Annotations) (key : String) : Bool :=
  (notes.get? key).isSome

/-- Adds or replaces an annotation. -/
def set (notes : Annotations) (key : String) (value : Annotation) : Annotations :=
  ⟨insertByKey key value notes.entries⟩

/-- Removes an annotation. -/
def erase (notes : Annotations) (key : String) : Annotations :=
  ⟨notes.entries.filter fun entry => entry.1 != key⟩

/-- The truth value of an annotation, or `absent` if there is none. -/
def flag (notes : Annotations) (key : String) (absent : Bool) : Bool :=
  match notes.get? key with
  | some (.bool b) => b
  | _ => absent

/-- The whole number of an annotation. -/
def int? (notes : Annotations) (key : String) : Option Int :=
  match notes.get? key with
  | some (.int n) => some n
  | _ => none

/-- The text of an annotation. -/
def text? (notes : Annotations) (key : String) : Option String :=
  match notes.get? key with
  | some (.text s) => some s
  | _ => none

/-- The texts of an annotation. -/
def texts? (notes : Annotations) (key : String) : Option (List String) :=
  match notes.get? key with
  | some (.texts items) => some items
  | _ => none

/-- The annotations as a tree dump shows them. -/
def dump (notes : Annotations) : String :=
  if notes.entries.isEmpty then ""
  else
    " \x7b" ++ String.intercalate ", " (notes.entries.map fun entry => entry.1 ++ ": " ++ entry.2.dump)
      ++ "\x7d"

end Annotations

end Templating
