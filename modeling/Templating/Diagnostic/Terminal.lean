import Templating.Diagnostic.Basic
import Templating.Text.Search

/-! # Diagnostics on a terminal

The form in which a person reads diagnostics: a headline, then each line that matters, quoted from the
source when it is known. Colours are optional.
-/

namespace Templating

/-- When diagnostics are coloured. -/
inductive ColorMode where
  /-- On a terminal only. -/
  | auto
  /-- Always. -/
  | always
  /-- Never. -/
  | never
deriving Repr, DecidableEq, BEq

/-- Whether diagnostics are coloured. -/
def ColorMode.applies (mode : ColorMode) (onTerminal : Bool) : Bool :=
  match mode with
  | auto => onTerminal
  | always => true
  | never => false

/-- A colour of a terminal, as the code between the escape and the letter. -/
inductive Color where
  /-- Errors and the lines they are about. -/
  | error
  /-- Warnings. -/
  | warning
  /-- Remarks. -/
  | note
  /-- Ways out. -/
  | help
  /-- Codes and headings. -/
  | bold
  /-- The surroundings of an error. -/
  | secondary
deriving Repr, DecidableEq, BEq

/-- The escape sequence that switches a colour on. -/
def Color.sequence : Color → String
  | error => "\x1b[1;31m"
  | warning => "\x1b[1;33m"
  | note => "\x1b[1;36m"
  | help => "\x1b[1;32m"
  | bold => "\x1b[1m"
  | secondary => "\x1b[1;34m"

/-- A text in a colour, if colours are used. -/
def Color.paint (color : Color) (colored : Bool) (text : String) : String :=
  if colored then color.sequence ++ text ++ "\x1b[0m" else text

/-- The colour of a severity. -/
def Severity.color : Severity → Color
  | error => .error
  | warning => .warning
  | note => .note

/-- A line without the carriage return that ends it. -/
def withoutReturn (line : List Char) : List Char :=
  match line.reverse with
  | '\r' :: rest => rest.reverse
  | _ => line

/-- The lines of a text. A line feed ends a line, with a carriage return before it; the rest after the last
one is a line if it is not empty. -/
def sourceLines (text : List Char) : List (List Char) :=
  let parts := Text.splitParts '\n' [] [] text
  parts.dropLast.map withoutReturn ++ (parts.getLast?.filter fun line => !line.isEmpty).toList

namespace Diagnostic

/-- Blanks, as many as asked for. -/
def blanks (count : Nat) : String :=
  String.ofList (List.replicate count ' ')

/-- A number at the right of a column. -/
def alignRight (width number : Nat) : String :=
  let digits := toString number
  blanks (width - digits.length) ++ digits

/-- The line of the source with a number counted from one. -/
def quoteLine? (source : Option String) (line : Nat) : Option String :=
  match source, line with
  | none, _ => none
  | _, 0 => none
  | some text, index + 1 => (sourceLines text.toList)[index]?.map String.ofList

/-- One line that matters. -/
def renderLabel (colored : Bool) (source : Option String) (location : String) (gutter : Nat)
    (label : Label) : String :=
  let quoted :=
    match quoteLine? source label.line with
    | some text => alignRight gutter label.line ++ " | " ++ text ++ "\n"
    | none => ""
  blanks gutter ++ " " ++ (if label.isPrimary then "-->" else ":::") ++ " " ++ location ++ ":"
    ++ toString label.line ++ "\n"
    ++ quoted
    ++ blanks gutter ++ " = "
    ++ (if label.isPrimary then Color.error else Color.secondary).paint colored label.message ++ "\n"

/-- The diagnostic as a terminal shows it. -/
def render (d : Diagnostic) (colored : Bool) (source : Option String) : String :=
  let gutter := (d.labels.map fun label => (toString label.line).length).max?.getD 1
  d.severity.color.paint colored d.severity.name
    ++ Color.bold.paint colored ("[" ++ d.code.number ++ "]") ++ ": " ++ d.message ++ "\n"
    ++ String.join (d.labels.map (renderLabel colored source (d.template.getD "<template>") gutter))
    ++ String.join (d.notes.map fun note => "  = " ++ Color.bold.paint colored "note" ++ ": " ++ note ++ "\n")
    ++ String.join
      (d.suggestions.map fun help => "  = " ++ Color.help.paint colored "help" ++ ": " ++ help ++ "\n")
    ++ "\n"

end Diagnostic

end Templating
