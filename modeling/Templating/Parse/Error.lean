import Templating.Token.Pattern
import Templating.Parse.State
import Templating.Diagnostic.Basic

/-! # Parse errors

Why a sequence of tokens is no template: a cause, and the line on which it was noticed. A cause that
concerns something opened elsewhere points at that place as well.
-/

namespace Templating

/-- Why tokens are no template. -/
inductive ParseCause where
  /-- Something else belongs here. -/
  | unexpected (expected : String) (found : Token)
  /-- A literal is no number in range. -/
  | invalidNumber (text : String)
  /-- An expression belongs here. -/
  | expectedExpression (found : Token)
  /-- A construct is open at the end. -/
  | unterminated (construct : String) (opened : Nat)
  /-- A closer meets another construct than its own. -/
  | unexpectedClosing (closer : String) (innermost : Option OpenState)
  /-- The construct to be closed is not the innermost one. -/
  | stateMismatch (label : String) (innermost : Option OpenState)
  /-- A tag is unknown. -/
  | unknownTag (name : String)
  /-- A keyword stands outside the block that it continues. -/
  | continuationOutside (keyword : String)
  /-- Operators of one precedence stand in a row, and the earlier one does not associate. -/
  | chained (earlier next : String)
  /-- Something stands before the first branch of a choice. -/
  | switchBranch (found : Token)
  /-- An operator takes no operand in front. -/
  | unknownOperator (text : String)
  /-- The tokens behind a keyword fit none of its forms. -/
  | grammarMismatch (tag : String) (alternatives : List (List TokenPattern)) (found : Token)
  /-- The parser was stopped before it came to an end. -/
  | exhausted
deriving Repr, DecidableEq, BEq

namespace ParseCause

/-- The code of a cause. -/
def code : ParseCause → DiagnosticCode
  | unexpected _ _ => .unexpectedToken
  | invalidNumber _ => .invalidNumber
  | expectedExpression _ => .expectedExpression
  | unterminated _ _ => .unterminatedConstruct
  | unexpectedClosing _ _ => .unexpectedClosing
  | stateMismatch _ _ => .unexpectedClosing
  | unknownTag _ => .unknownTag
  | continuationOutside _ => .continuationOutside
  | chained _ _ => .chainedOperator
  | switchBranch _ => .switchBranch
  | unknownOperator _ => .unknownOperator
  | grammarMismatch _ _ _ => .grammarMismatch
  | exhausted => .internalError

/-- The message of a cause. -/
def message : ParseCause → String
  | unexpected expected found => "expected " ++ expected ++ ", found " ++ found.describe
  | invalidNumber text => "invalid number literal `" ++ text ++ "`"
  | expectedExpression found => "expected an expression, found " ++ found.describe
  | unterminated construct opened =>
    "unterminated `" ++ construct ++ "` opened on line " ++ toString opened
  | unexpectedClosing closer _ => "unexpected closing construct `" ++ closer ++ "`"
  | stateMismatch label _ => "unexpected closing construct `" ++ label ++ "`"
  | unknownTag name => "unknown tag `" ++ name ++ "`"
  | continuationOutside keyword => "`" ++ keyword ++ "` is not valid outside the block that owns it"
  | chained earlier next =>
    if earlier = next then "operator `" ++ earlier ++ "` cannot be chained"
    else "operator `" ++ earlier ++ "` cannot be chained with `" ++ next ++ "`"
  | switchBranch found =>
    "switch branches must start with `case` or `default`, found " ++ found.describe
  | unknownOperator text => "`" ++ text ++ "` is not a binary operator"
  | grammarMismatch tag alternatives found =>
    "`" ++ tag ++ "` expected one of: "
      ++ String.intercalate ", " (alternatives.map TokenPattern.describeAll)
      ++ "; found " ++ found.describe
  | exhausted => "the parser was stopped"

/-- The remark on the line of an open construct. -/
def stillOpen (innermost : Option OpenState) : String :=
  match innermost with
  | some state => "`" ++ state.label ++ "` is still open"
  | none => "nothing is open here"

/-- The remark on the line of a cause. -/
def label (cause : ParseCause) : String :=
  match cause with
  | unexpected expected _ => "expected " ++ expected
  | expectedExpression _ => "expression expected here"
  | unterminated _ _ => "template ends here"
  | unexpectedClosing _ innermost => stillOpen innermost
  | stateMismatch _ innermost => stillOpen innermost
  | unknownTag _ => "not a registered tag"
  | grammarMismatch tag _ _ => "invalid arguments to `" ++ tag ++ "`"
  | cause => cause.message

/-- The line and the remark of an open construct. -/
def openedAt (innermost : Option OpenState) : List Label :=
  innermost.toList.map fun state =>
    ⟨state.line, "innermost open construct `" ++ state.label ++ "`", false⟩

/-- The other lines that a cause concerns. -/
def related : ParseCause → List Label
  | unterminated construct opened => [⟨opened, "`" ++ construct ++ "` opened here", false⟩]
  | unexpectedClosing _ innermost => openedAt innermost
  | stateMismatch _ innermost => openedAt innermost
  | _ => []

/-- The ways out of a cause. -/
def suggestions : ParseCause → List String
  | unknownTag _ => ["register the tag through an extension, or configure a fallback tag"]
  | chained _ _ => ["add parentheses to make the grouping explicit"]
  | _ => []

end ParseCause

/-- Why tokens are no template, and where. -/
structure ParseError where
  /-- The cause. -/
  cause : ParseCause
  /-- The line on which it was noticed. -/
  line : Nat
deriving Repr, DecidableEq, BEq

namespace ParseError

/-- The code of an error. -/
def code (e : ParseError) : DiagnosticCode :=
  e.cause.code

/-- The message of an error, with its line. -/
def message (e : ParseError) : String :=
  e.cause.message ++ " (line " ++ toString e.line ++ ")"

/-- The diagnostic of an error. -/
def toDiagnostic (e : ParseError) : Diagnostic where
  code := e.code
  message := e.cause.message
  labels := ⟨e.line, e.cause.label, true⟩ :: e.cause.related
  suggestions := e.cause.suggestions

/-- Something else belongs where a token stands. -/
def unexpected (expected : String) (found : Token) : ParseError :=
  ⟨.unexpected expected found, found.line⟩

end ParseError

end Templating
