import Templating.Diagnostic.Basic
import Templating.Tree.Basic

/-! # Compile errors

Why a tree cannot be compiled. Trees that were read from a source are well formed, so most of these are
about trees that were built in another way.
-/

namespace Templating

/-- What is wrong with the shape of a node. -/
inductive LayoutFault where
  /-- There is no tree. -/
  | noRoot
  /-- A reference is to no node. -/
  | missingNode (id : NodeId)
  /-- An expression stands where a statement belongs. -/
  | expressionAsStatement (kind : String)
  /-- A statement stands where an expression belongs. -/
  | statementAsExpression (kind : String)
  /-- A tag with one child has another number of them. -/
  | childCount (tag : String) (count : Nat)
  /-- The branches of a condition are no pairs. -/
  | unpairedBranches (count : Nat)
  /-- A choice has nothing to choose by. -/
  | missingSubject
  /-- The cases of a choice are no pairs. -/
  | unpairedCases (count : Nat)
  /-- A loop has the wrong number of children. -/
  | loopChildren (count : Nat)
  /-- A loop has no variable. -/
  | missingLoopVariable
  /-- A loop ends where none is open. -/
  | noOpenLoop
  /-- A loop that asks for a branch for no entries has none. -/
  | missingElse
  /-- An assignment has no variable. -/
  | missingVariable
  /-- The text of the template is no text. -/
  | textNotString
  /-- A nested template has not one body. -/
  | blockCount
  /-- A nested template has no name. -/
  | missingName
  /-- A nested template ends where none is open. -/
  | noOpenTemplate
  /-- Two templates of a module have one name. -/
  | definedTwice (name : String)
  /-- A number is infinite or none at all. -/
  | notFinite (x : Float)
  /-- A number leads to nothing that is registered. -/
  | unregistered (kind : String)
deriving Repr, BEq

namespace LayoutFault

/-- What has the wrong shape. -/
def subject : LayoutFault → String
  | noRoot => "template"
  | missingNode _ => "node"
  | expressionAsStatement kind => kind
  | statementAsExpression kind => kind
  | childCount tag _ => tag
  | unpairedBranches _ => "if"
  | missingSubject => "switch"
  | unpairedCases _ => "switch"
  | loopChildren _ => "for"
  | missingLoopVariable => "for"
  | noOpenLoop => "for"
  | missingElse => "for"
  | missingVariable => "set"
  | textNotString => "print"
  | blockCount => "template"
  | missingName => "template"
  | noOpenTemplate => "template"
  | definedTwice _ => "template"
  | notFinite _ => "number"
  | unregistered kind => kind

/-- What is wrong with it. -/
def reason : LayoutFault → String
  | noRoot => "tree has no root"
  | missingNode id => id.describe ++ " does not exist"
  | expressionAsStatement _ => "expression where a statement was expected"
  | statementAsExpression _ => "statement where an expression was expected"
  | childCount _ count => "expected one child, found " ++ toString count
  | unpairedBranches count => toString count ++ " children do not form condition/block pairs"
  | missingSubject => "missing subject"
  | unpairedCases count => toString count ++ " children do not form value/block pairs"
  | loopChildren count => "expected 2 or 3 children, found " ++ toString count
  | missingLoopVariable => "missing loop variable"
  | noOpenLoop => "loop stack is empty"
  | missingElse => "missing else block"
  | missingVariable => "missing variable name"
  | textNotString => "text is not a string"
  | blockCount => "expected one block"
  | missingName => "missing name"
  | noOpenTemplate => "no nested template is open"
  | definedTwice name => "template `" ++ name ++ "` is defined twice"
  | notFinite x => "`" ++ Number.Layout.plain.write x ++ "` is not finite"
  | unregistered _ => "not registered"

end LayoutFault

/-- Why a tree cannot be compiled. -/
inductive CompileCause where
  /-- An operator lacks an operand. -/
  | missingOperand (operator : String) (slot : Slot)
  /-- A node has the wrong shape. -/
  | badLayout (fault : LayoutFault)
  /-- Two names become one identifier. -/
  | collision (name other identifier : String)
deriving Repr, BEq

namespace CompileCause

/-- The code of a cause. -/
def code : CompileCause → DiagnosticCode
  | missingOperand _ _ => .missingOperand
  | badLayout _ => .badLayout
  | collision _ _ _ => .identifierCollision

/-- The message of a cause. -/
def message : CompileCause → String
  | missingOperand operator slot =>
    "operator `" ++ operator ++ "` is missing its " ++ slot.name ++ " operand"
  | badLayout fault => "malformed `" ++ fault.subject ++ "`: " ++ fault.reason
  | collision name other identifier =>
    "`" ++ name ++ "` and `" ++ other ++ "` both compile to `" ++ identifier ++ "`"

end CompileCause

/-- Why a tree cannot be compiled, and where. -/
structure CompileError where
  /-- The cause. -/
  cause : CompileCause
  /-- The line it is about. -/
  line : Nat
deriving Repr, BEq

namespace CompileError

/-- The code of an error. -/
def code (e : CompileError) : DiagnosticCode :=
  e.cause.code

/-- The message of an error, with its line. -/
def message (e : CompileError) : String :=
  e.cause.message ++ " (line " ++ toString e.line ++ ")"

/-- The diagnostic of an error. -/
def toDiagnostic (e : CompileError) : Diagnostic where
  code := e.code
  message := e.cause.message
  labels := [⟨e.line, "while compiling this", true⟩]

/-- A node has the wrong shape. -/
def layout (fault : LayoutFault) (line : Nat) : CompileError :=
  ⟨.badLayout fault, line⟩

end CompileError

end Templating
