import Templating.Value.Basic

/-! # Failures of rendering

Everything that can go wrong while a template is rendered, as a cause, with its message.
-/

namespace Templating

/-- What is wrong with an argument of a function. -/
inductive ArgumentFault where
  /-- The argument has the wrong kind. -/
  | expected (wanted : String) (got : Kind)
  /-- The argument at this position, counted from one, is a container. -/
  | notScalar (position : Nat)
  /-- The argument at this position, counted from one, is no whole number. -/
  | notInt (position : Nat)
  /-- A sequence would never advance. -/
  | zeroStep
  /-- The host refused the arguments with words of its own. -/
  | refused (reason : String)
deriving Repr, DecidableEq, BEq

/-- The message of an argument fault. -/
def ArgumentFault.message : ArgumentFault → String
  | expected wanted got => "expected " ++ wanted ++ ", got " ++ got.name
  | notScalar position => "argument " ++ toString position ++ " must be a scalar"
  | notInt position => "argument " ++ toString position ++ " must be an int"
  | zeroStep => "step must not be zero"
  | refused reason => reason

/-- Why a rendering failed. -/
inductive Failure where
  /-- No template has the name. -/
  | templateNotFound (name : String)
  /-- No function has the name. -/
  | unknownFunction (name : String)
  /-- No extension has the name. -/
  | unknownExtension (name : String)
  /-- Nothing is bound to the name of a callback. -/
  | unboundCallback (binding : String)
  /-- An operator does not take operands of these kinds. -/
  | unsupportedOperands (operator : String) (left right : Kind)
  /-- A value has no entries to go through. -/
  | notIterable (kind : Kind)
  /-- A function refused an argument. -/
  | invalidArgument (function : String) (fault : ArgumentFault)
  /-- A number was divided by zero. -/
  | divisionByZero
  /-- A whole number left the range of 64 bits. -/
  | overflow (operation : String)
  /-- A text is no pattern. -/
  | pattern (reason : String)
  /-- Templates include each other too deeply. -/
  | includeDepth (name : String)
deriving Repr, DecidableEq, BEq

/-- The message of a failure. -/
def Failure.message : Failure → String
  | templateNotFound name => "template `" ++ name ++ "` not found"
  | unknownFunction name => "unknown function `" ++ name ++ "`"
  | unknownExtension name => "unknown extension `" ++ name ++ "`"
  | unboundCallback binding => "no callback bound to `" ++ binding ++ "`"
  | unsupportedOperands operator left right =>
    "unsupported operand types for `" ++ operator ++ "`: " ++ left.name ++ " and " ++ right.name
  | notIterable kind => "cannot iterate over " ++ kind.name
  | invalidArgument function fault => "invalid argument to `" ++ function ++ "`: " ++ fault.message
  | divisionByZero => "division by zero"
  | overflow operation => "integer overflow in `" ++ operation ++ "`"
  | pattern reason => "invalid pattern: " ++ reason
  | includeDepth name => "include depth limit reached while including `" ++ name ++ "`"

/-- The failure of an operator on operands of the wrong kinds. -/
def Failure.operands (operator : String) (left right : Value) : Failure :=
  .unsupportedOperands operator left.kind right.kind

/-- The entries that a loop over a value goes through: positions and items of a list, keys and values of
a map, positions and characters of a text, and nothing for nothing. -/
def Value.entries : Value → Except Failure (List (Value × Value))
  | .null => .ok []
  | .list items => .ok (items.zipIdx.map fun pair => (.ofNat pair.2, pair.1))
  | .map entries => .ok (entries.map fun entry => (.string entry.1, entry.2))
  | .string s => .ok (s.toList.zipIdx.map fun pair => (.ofNat pair.2, .ofChar pair.1))
  | other => .error (.notIterable other.kind)

end Templating
