import Templating.Diagnostic.Code

/-! # Diagnostics

A diagnostic says what is wrong with a template and points at the lines that matter.
-/

namespace Templating

/-- How grave a diagnostic is. -/
inductive Severity where
  /-- The template is refused. -/
  | error
  /-- The template is dubious. -/
  | warning
  /-- Something worth knowing. -/
  | note
deriving Repr, DecidableEq, BEq

/-- The name of a severity. -/
def Severity.name : Severity → String
  | error => "error"
  | warning => "warning"
  | note => "note"

/-- A line with a remark. -/
structure Label where
  /-- The number of the line, counted from one. -/
  line : Nat
  /-- The remark. -/
  message : String
  /-- Whether the diagnostic is about this line, and not about its surroundings. -/
  isPrimary : Bool := true
deriving Repr, DecidableEq, BEq

/-- What is wrong with a template. -/
structure Diagnostic where
  /-- What it is about. -/
  code : DiagnosticCode
  /-- How grave it is. -/
  severity : Severity := .error
  /-- The message. -/
  message : String := ""
  /-- The name of the template, if it is known. -/
  template : Option String := none
  /-- The lines that matter. -/
  labels : List Label := []
  /-- Remarks. -/
  notes : List String := []
  /-- Ways out. -/
  suggestions : List String := []
deriving Repr, DecidableEq, BEq

namespace Diagnostic

/-- The first line that the diagnostic is about. -/
def primaryLine? (d : Diagnostic) : Option Nat :=
  (d.labels.find? (·.isPrimary)).map (·.line)

/-- Whether the template is refused. -/
def isError (d : Diagnostic) : Bool :=
  d.severity == .error

/-- Names the template. -/
def inTemplate (d : Diagnostic) (name : String) : Diagnostic :=
  { d with template := some name }

/-- The diagnostic as a plain text of several lines. -/
def summary (d : Diagnostic) : String :=
  let label (l : Label) : String :=
    "\n  " ++ (if l.isPrimary then "-->" else "   ") ++ " line " ++ toString l.line ++ ": " ++ l.message
  d.severity.name ++ " [" ++ d.code.number ++ "]: " ++ d.message
    ++ String.join (d.labels.map label)
    ++ String.join (d.notes.map fun note => "\n  = note: " ++ note)
    ++ String.join (d.suggestions.map fun suggestion => "\n  = help: " ++ suggestion)

/-- A construct that is still open at the end of the template. -/
def unclosed (construct : String) (opened found : Nat) : Diagnostic where
  code := .unterminatedConstruct
  message := "unterminated `" ++ construct ++ "` opened on line " ++ toString opened
  labels := [⟨found, "template ends here", true⟩, ⟨opened, "`" ++ construct ++ "` opened here", false⟩]

/-- A token that stands where another one belongs. -/
def unexpected (line : Nat) (expected found : String) : Diagnostic where
  code := .unexpectedToken
  message := "expected " ++ expected ++ ", found " ++ found
  labels := [⟨line, "expected " ++ expected, true⟩]

end Diagnostic

end Templating
