import Templating.Code.Basic
import Templating.Compile.Error
import Templating.Registry.Basic

/-! # Compiling expressions

Every expression of a template becomes an expression of compiled templates. Operators become what their
strategies make of their operands.
-/

namespace Templating.Compile

/-- The operands of an operator, each compiled or refused. -/
structure Operands where
  /-- The operand in front. -/
  left : Except CompileError Code.Expr
  /-- The operand between. -/
  middle : Except CompileError Code.Expr
  /-- The operand behind. -/
  right : Except CompileError Code.Expr
  /-- The variable that the operand in front is, if it is one. -/
  variableName : Option String

/-- What a strategy makes of the operands. Operands are asked for from left to right, and the first one
that is refused is the error. -/
def strategy (operands : Operands) : Strategy → Except CompileError Code.Expr
  | .binary operation => do
    let left ← operands.left
    let right ← operands.right
    return .binary operation left right
  | .unary operation => do
    let operand ← operands.right
    return .unary operation operand
  | .test operation => do
    let subject ← operands.left
    return .unary operation subject
  | .isSet =>
    match operands.variableName with
    | some name => .ok (.bound name)
    | none => do
      let subject ← operands.left
      return .unary "is_set" subject
  | .both => do
    let left ← operands.left
    let right ← operands.right
    return .both left right
  | .either => do
    let left ← operands.left
    let right ← operands.right
    return .either left right
  | .negation => do
    let operand ← operands.right
    return .negation operand
  | .conditional => do
    let condition ← operands.left
    let accepted ← operands.middle
    let rejected ← operands.right
    return .choice condition accepted rejected
  | .negate positive => do
    let positive ← strategy operands positive
    return .negation positive

/-- A written value as a constant. -/
def scalar (value : Scalar) (line : Nat) : Except CompileError Code.Expr :=
  match value with
  | .null => .ok (.constant .null)
  | .bool b => .ok (.constant (.bool b))
  | .int n => .ok (.constant (.int n))
  | .float x =>
    if x.isFinite then .ok (.constant (.float x)) else .error (.layout (.notFinite x) line)
  | .string s => .ok (.constant (.string s))

/-- A call without a receiver. -/
def call (r : Registries) (callee : Callee) (args : List Code.Expr) (line : Nat) :
    Except CompileError Code.Expr :=
  match callee with
  | .named name => .ok (.callHelper name args)
  | .resolved id =>
    match r.functions.get? id with
    | none => .error (.layout (.unregistered "function") line)
    | some function =>
      match function.invocation with
      | .simple target => .ok (.callPath target args)
      | .method extension method => .ok (.callExtension extension method args)
      | .callback binding => .ok (.callBinding binding args)

/-- The name that a call with a receiver is dispatched by. -/
def methodName (r : Registries) (callee : Callee) (line : Nat) : Except CompileError String :=
  match callee with
  | .named name => .ok name
  | .resolved id =>
    match r.functions.get? id with
    | none => .error (.layout (.unregistered "function") line)
    | some function => .ok function.name

/-- The variable that an operand is, if it is one. -/
def variableName : Option Tree → Option String
  | some (.variable name _ _) => some name
  | _ => none

mutual

/-- Compiles an expression. -/
def expression (r : Registries) : Tree → Except CompileError Code.Expr
  | .data value line _ => scalar value line
  | .list items _ _ => do
    let items ← expressions r items
    return .list items
  | .variable name _ _ => .ok (.variable name)
  | .identifier name _ _ => .ok (.constant (.string name))
  | .index base key _ _ => do
    let base ← expression r base
    let key ← expression r key
    return .index base key
  | .operator id left middle right line _ =>
    match r.operators.get? id with
    | none => .error (.layout (.unregistered "operator") line)
    | some definition =>
      strategy {
        left := operand r definition.name .left line left
        middle := operand r definition.name .middle line middle
        right := operand r definition.name .right line right
        variableName := variableName left } definition.strategy
  | .call callee none args line _ => do
    let args ← expressions r args
    call r callee args line
  | .call callee (some receiver) args line _ => do
    let args ← expressions r args
    let receiver ← expression r receiver
    let name ← methodName r callee line
    return .callMethod receiver name args
  | .root _ line _ => .error (.layout (.statementAsExpression "root") line)
  | .block _ line _ => .error (.layout (.statementAsExpression "block") line)
  | .tag _ _ line _ => .error (.layout (.statementAsExpression "tag") line)
  | .missing id => .error (.layout (.missingNode id) 0)

/-- Compiles expressions from left to right. -/
def expressions (r : Registries) : List Tree → Except CompileError (List Code.Expr)
  | [] => .ok []
  | item :: items => do
    let item ← expression r item
    let items ← expressions r items
    return item :: items

/-- Compiles an operand of the operator `operator` on a line. -/
def operand (r : Registries) (operator : String) (slot : Slot) (line : Nat) :
    Option Tree → Except CompileError Code.Expr
  | some tree => expression r tree
  | none => .error ⟨.missingOperand operator slot, line⟩

end

end Templating.Compile
