/-! # Indented text

Text built line by line at a level of indentation.
-/

namespace Templating.Code

/-- A step of building text. -/
inductive Edit where
  /-- Writes a line at the current level. -/
  | line (text : String)
  /-- Writes an empty line. -/
  | blank
  /-- Writes a text as it is. -/
  | raw (text : String)
  /-- Goes one level in. -/
  | indent
  /-- Goes one level out. -/
  | outdent
deriving Repr, DecidableEq, BEq

/-- A text with the level of its next line. -/
structure Buffer where
  /-- The level of the next line. -/
  level : Nat := 0
  /-- The text so far. -/
  text : String := ""
deriving Repr, DecidableEq, BEq

namespace Buffer

/-- The blanks in front of a line. -/
def indentation (level : Nat) : String :=
  "".pushn ' ' (4 * level)

/-- Takes a step. The outermost level is never left. -/
def apply (buffer : Buffer) : Edit → Buffer
  | .line text => { buffer with text := buffer.text ++ indentation buffer.level ++ text ++ "\n" }
  | .blank => { buffer with text := buffer.text ++ "\n" }
  | .raw text => { buffer with text := buffer.text ++ text }
  | .indent => { buffer with level := buffer.level + 1 }
  | .outdent => { buffer with level := buffer.level - 1 }

/-- Takes steps in order. -/
def applyAll (buffer : Buffer) (edits : List Edit) : Buffer :=
  edits.foldl apply buffer

end Buffer

end Templating.Code
