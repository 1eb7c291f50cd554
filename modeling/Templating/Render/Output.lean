import Templating.Value.Basic

/-! # Output

The text that a running template writes. Values are escaped for markup unless they are known to be safe.
-/

namespace Templating

/-- The text written so far. -/
structure Output where
  /-- The text. -/
  text : String := ""
deriving Repr, DecidableEq, BEq, Inhabited

/-- A character of a text that stands in markup. -/
def escapeChar (c : Char) : String :=
  if c = '&' then "&amp;"
  else if c = '<' then "&lt;"
  else if c = '>' then "&gt;"
  else if c = '"' then "&quot;"
  else if c = '\'' then "&#39;"
  else String.singleton c

/-- A text that stands in markup. -/
def escapeMarkup (text : String) : String :=
  String.join (text.toList.map escapeChar)

/-- The text of a value with markup escaped. -/
def Value.escaped (v : Value) : String :=
  match v with
  | .null | .bool _ | .int _ | .float _ => v.display
  | .string s => escapeMarkup s
  | .list _ | .map _ => escapeMarkup v.display

namespace Output

/-- Writes a text as it is. -/
def writeText (output : Output) (text : String) : Output :=
  ⟨output.text ++ text⟩

/-- Writes a value as it is. -/
def writeValue (output : Output) (v : Value) : Output :=
  output.writeText v.display

/-- Writes a value with markup escaped. -/
def writeEscaped (output : Output) (v : Value) : Output :=
  output.writeText v.escaped

end Output

end Templating
