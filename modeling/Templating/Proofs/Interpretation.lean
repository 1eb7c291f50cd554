import Templating.Proofs.Annotating
import Templating.Render.Rendering

/-! # The meaning of trees

What a template does, read off its tree: operands are evaluated when they are asked for, outputs are escaped
unless they are direct calls of safe functions, and a loop runs in a scope that ends with it. Nothing here
knows of locals, of code or of the annotations that passes make.
-/

namespace Templating

/-- A written value as a value. -/
def Scalar.toValue : Scalar → Value
  | null => .null
  | bool b => .bool b
  | int n => .int n
  | float x => .float x
  | string s => .string s

namespace Interpret

/-- What the operands of an operator are worth, if they are asked for. -/
structure Operands where
  /-- The operand in front. -/
  left : Except Failure Value
  /-- The operand between. -/
  middle : Except Failure Value
  /-- The operand behind. -/
  right : Except Failure Value
  /-- If the operand in front is a variable, whether it is bound. -/
  isBound : Option Bool

def unary (operation : String) (operand : Value) : Except Failure Value :=
  match Operation.unary? operation with
  | some f => f operand
  | none => .error (.unknownFunction operation)

def binary (engine : PatternEngine) (operation : String) (left right : Value) : Except Failure Value :=
  match Operation.binary? operation engine with
  | some f => f left right
  | none => .error (.unknownFunction operation)

/-- What a strategy makes of the operands. -/
def strategy (engine : PatternEngine) (operands : Operands) : Strategy → Except Failure Value
  | .binary operation => do
    let left ← operands.left
    let right ← operands.right
    binary engine operation left right
  | .unary operation => do
    let operand ← operands.right
    unary operation operand
  | .test operation => do
    let subject ← operands.left
    unary operation subject
  | .isSet =>
    match operands.isBound with
    | some b => .ok (.bool b)
    | none => do
      let subject ← operands.left
      unary "is_set" subject
  | .both => do
    let left ← operands.left
    if left.truthy then
      let right ← operands.right
      return .bool right.truthy
    else return .bool false
  | .either => do
    let left ← operands.left
    if left.truthy then return .bool true
    else
      let right ← operands.right
      return .bool right.truthy
  | .negation => do
    let operand ← operands.right
    return .bool (!operand.truthy)
  | .conditional => do
    let condition ← operands.left
    if condition.truthy then operands.middle else operands.right
  | .negate positive => do
    let positive ← strategy engine operands positive
    return .bool (!positive.truthy)

/-- Calls a function without a receiver. An extension must be there before the arguments are evaluated. -/
def call (r : Registries) (env : Environment) (callee : Callee) (args : Except Failure (List Value)) :
    Except Failure Value :=
  match callee with
  | .named name => do
    let args ← args
    env.callHelper name args
  | .resolved id =>
    match r.functions.get? id with
    | none => .ok .null
    | some function =>
      match function.invocation with
      | .simple path => do
        let args ← args
        env.callPath path args
      | .method extension method => do
        let extension ← env.extension extension
        let args ← args
        extension.call method args
      | .callback binding => do
        let args ← args
        env.invokeCallback binding args

/-- The name that a call with a receiver is dispatched by. -/
def methodName (r : Registries) : Callee → String
  | .named name => name
  | .resolved id => ((r.functions.get? id).map (·.name)).getD ""

/-- If an operand is a variable, whether it is bound. -/
def isBound (context : Context) : Option Tree → Option Bool
  | some (.variable name _ _) => some (context.contains name)
  | _ => none

mutual

/-- The value of an expression. A tree that is no expression is worth nothing. -/
def expression (r : Registries) (env : Environment) (context : Context) : Tree → Except Failure Value
  | .data value _ _ => .ok value.toValue
  | .list items _ _ => do
    let items ← expressions r env context items
    return .list items
  | .variable name _ _ => .ok (context.get name)
  | .identifier name _ _ => .ok (.string name)
  | .index base key _ _ => do
    let base ← expression r env context base
    let key ← expression r env context key
    base.index key
  | .operator id left middle right _ _ =>
    match r.operators.get? id with
    | none => .ok .null
    | some definition =>
      strategy env.patterns {
        left := operand r env context left
        middle := operand r env context middle
        right := operand r env context right
        isBound := isBound context left } definition.strategy
  | .call callee none args _ _ => call r env callee (expressions r env context args)
  | .call callee (some receiver) args _ _ => do
    let receiver ← expression r env context receiver
    let args ← expressions r env context args
    env.callMethod receiver (methodName r callee) args
  | _ => .ok .null

/-- The values of expressions, from left to right. -/
def expressions (r : Registries) (env : Environment) (context : Context) : List Tree → Except Failure (List Value)
  | [] => .ok []
  | item :: items => do
    let item ← expression r env context item
    let items ← expressions r env context items
    return item :: items

def operand (r : Registries) (env : Environment) (context : Context) : Option Tree → Except Failure Value
  | some tree => expression r env context tree
  | none => .ok .null

end

/-- Writes the text of the template, or a value. -/
def print (r : Registries) (env : Environment) (context : Context) (output : Output) (notes : Annotations) :
    List Tree → Except Failure (Context × Output)
  | [child] =>
    if notes.flag "text" false then
      match child with
      | .data (.string text) _ _ => .ok (context, output.writeText text)
      | _ => .ok (context, output)
    else do
      let value ← expression r env context child
      return (context, if child.isSafeCall r then output.writeValue value else output.writeEscaped value)
  | _ => .ok (context, output)

/-- Gives a variable of the innermost scope a value. -/
def assignment (r : Registries) (env : Environment) (context : Context) (output : Output) (notes : Annotations) :
    List Tree → Except Failure (Context × Output)
  | [child] =>
    match notes.text? "name" with
    | some name => do
      let value ← expression r env context child
      return (context.set name value, output)
    | none => .ok (context, output)
  | _ => .ok (context, output)

/-- Renders the template that a value names. -/
def inclusion (r : Registries) (env : Environment) (includer : Code.Includer) (context : Context) (output : Output) :
    List Tree → Except Failure (Context × Output)
  | [child] => do
    let value ← expression r env context child
    includer value context output
  | _ => .ok (context, output)

/-- The variables at the start of a round. -/
def bindRound (notes : Annotations) (entry : Value × Value) (round : LoopState) (context : Context) : Context :=
  let context := match notes.text? "key_var" with
    | some key => context.set key entry.1
    | none => context
  let context := match notes.text? "value_var" with
    | some value => context.set value entry.2
    | none => context
  context.set "loop" round.toValue

/-- The rounds of a loop from number `index` on. -/
def rounds (notes : Annotations) (length : Nat) (body : Context → Output → Except Failure (Context × Output))
    (index : Nat) (context : Context) (output : Output) : List (Value × Value) → Except Failure (Context × Output)
  | [] => .ok (context, output)
  | entry :: entries => do
    let (context, output) ← body (bindRound notes entry ⟨index, length⟩ context) output
    rounds notes length body (index + 1) context output entries

mutual

/-- The variables and the output after a statement. A tree that is no statement does nothing. -/
def statement (r : Registries) (env : Environment) (includer : Code.Includer) (context : Context) (output : Output) :
    Tree → Except Failure (Context × Output)
  | .root children _ _ => statements r env includer context output children
  | .block children _ _ => statements r env includer context output children
  | .tag id children _ notes =>
    match r.tags.get? id with
    | none => .ok (context, output)
    | some definition =>
      match definition.form with
      | .print => print r env context output notes children
      | .assignment => assignment r env context output notes children
      | .inclusion => inclusion r env includer context output children
      | .conditional => branches r env includer context output Value.truthy children
      | .switch => switch r env includer context output children
      | .loop => loop r env includer context output notes children
      -- A nested template is a template of its own and does nothing where it stands.
      | .nested => .ok (context, output)
      | .custom _ => .ok (context, output)
  | _ => .ok (context, output)

/-- Statements in order. -/
def statements (r : Registries) (env : Environment) (includer : Code.Includer) (context : Context) (output : Output) :
    List Tree → Except Failure (Context × Output)
  | [] => .ok (context, output)
  | child :: children => do
    let (context, output) ← statement r env includer context output child
    statements r env includer context output children

/-- The first of the pairs of a value and a body whose value passes; without one, a last body alone. -/
def branches (r : Registries) (env : Environment) (includer : Code.Includer) (context : Context) (output : Output)
    (passes : Value → Bool) : List Tree → Except Failure (Context × Output)
  | [] => .ok (context, output)
  | [last] => statement r env includer context output last
  | value :: content :: children => do
    let v ← expression r env context value
    if passes v then statement r env includer context output content
    else branches r env includer context output passes children

/-- The first case that is loosely equal to the subject. -/
def switch (r : Registries) (env : Environment) (includer : Code.Includer) (context : Context) (output : Output) :
    List Tree → Except Failure (Context × Output)
  | [] => .ok (context, output)
  | subject :: cases => do
    let v ← expression r env context subject
    branches r env includer context output v.looselyEqual cases

/-- A body for each entry, in a scope that ends with the loop; without entries, the last body if there is one. -/
def loop (r : Registries) (env : Environment) (includer : Code.Includer) (context : Context) (output : Output)
    (notes : Annotations) : List Tree → Except Failure (Context × Output)
  | iterable :: content :: last => do
    let v ← expression r env context iterable
    let entries ← v.entries
    let (inner, output) ← rounds notes entries.length
      (fun context output => statement r env includer context output content) 0 context.pushScope output entries
    if entries.isEmpty then statements r env includer inner.popScope output last
    else return (inner.popScope, output)
  | _ => .ok (context, output)

end

end Interpret

end Templating
