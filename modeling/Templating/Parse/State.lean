/-! # Open constructs

What is open at a place of a template: blocks, expressions, brackets. The innermost one decides what may
come next.
-/

namespace Templating

/-- What is open. -/
inductive StateKind where
  /-- The text of the template. -/
  | text
  /-- An output, or a group in brackets. -/
  | expression
  /-- The arguments of a call, or the items of a list. -/
  | argumentList
  /-- An index in brackets. -/
  | array
  /-- A condition. -/
  | blockIf
  /-- A loop. -/
  | blockFor
  /-- A choice between cases. -/
  | blockSwitch
  /-- A nested template. -/
  | blockTemplate
  /-- Any other block. -/
  | block
deriving Repr, DecidableEq, BEq

namespace StateKind

/-- Every kind. -/
def all : List StateKind :=
  [text, expression, argumentList, array, blockIf, blockFor, blockSwitch, blockTemplate, block]

/-- The name of a kind. -/
def name : StateKind → String
  | text => "Text"
  | expression => "Expression"
  | argumentList => "ArgumentList"
  | array => "Array"
  | blockIf => "BlockIf"
  | blockFor => "BlockFor"
  | blockSwitch => "BlockSwitch"
  | blockTemplate => "BlockTemplate"
  | block => "Block"

/-- Whether a block is open. -/
def isBlock : StateKind → Bool
  | blockIf => true
  | blockFor => true
  | blockSwitch => true
  | blockTemplate => true
  | block => true
  | _ => false

end StateKind

/-- An open construct. -/
structure OpenState where
  /-- What it is. -/
  kind : StateKind
  /-- The keyword of its tag, or its bracket. -/
  label : String
  /-- The line it was opened on. -/
  line : Nat
deriving Repr, DecidableEq, BEq

/-- An open construct in the words of messages. -/
def OpenState.describe (state : OpenState) : String :=
  "`" ++ state.label ++ "` opened on line " ++ toString state.line

/-- The open constructs, the innermost first. -/
abbrev OpenStates := List OpenState

namespace OpenStates

/-- The innermost open block. -/
def innermostBlock? (states : OpenStates) : Option OpenState :=
  states.find? (·.kind.isBlock)

/-- Closes the innermost construct, which must be of this kind and with this label; otherwise gives the
construct that is still open, if any is. -/
def close (states : OpenStates) (kind : StateKind) (label : String) :
    Except (Option OpenState) (OpenState × OpenStates) :=
  match states with
  | [] => .error none
  | top :: rest => if top.kind = kind ∧ top.label = label then .ok (top, rest) else .error (some top)

end OpenStates

end Templating
