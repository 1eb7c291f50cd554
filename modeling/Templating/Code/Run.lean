import Templating.Render.Environment

/-! # Running compiled templates

The meaning of compiled templates: the value of an expression, and the effect of a statement on the
variables and the output. The first failure ends the run. Inclusion is bounded by a depth, so every run
ends.
-/

namespace Templating.Code

/-- What a local of a compiled template holds. -/
inductive Local where
  /-- A value. -/
  | value (v : Value)
  /-- The entries that a loop goes through. -/
  | entries (pairs : List (Value × Value))
  /-- A flag. -/
  | flag (b : Bool)
  /-- A number. -/
  | count (n : Nat)
  /-- The round of a loop. -/
  | state (s : LoopState)
  /-- A checkpoint of the variables. -/
  | checkpoint (c : Checkpoint)
deriving Repr, Inhabited

/-- The state of a running template. -/
structure Machine where
  /-- The variables. -/
  context : Context
  /-- The text written so far. -/
  output : Output := {}
  /-- The locals, the latest first. -/
  locals : List (Nat × Local) := []
deriving Repr, Inhabited

namespace Machine

/-- Puts something into a local. -/
def hold (m : Machine) (target : Nat) (content : Local) : Machine :=
  { m with locals := (target, content) :: m.locals }

/-- The value in a local. -/
def value (m : Machine) (source : Nat) : Value :=
  match m.locals.lookup source with
  | some (.value v) => v
  | _ => .null

/-- The entries in a local. -/
def entries (m : Machine) (source : Nat) : List (Value × Value) :=
  match m.locals.lookup source with
  | some (.entries pairs) => pairs
  | _ => []

/-- The flag in a local. -/
def flag (m : Machine) (source : Nat) : Bool :=
  match m.locals.lookup source with
  | some (.flag b) => b
  | _ => false

/-- The number in a local. -/
def count (m : Machine) (source : Nat) : Nat :=
  match m.locals.lookup source with
  | some (.count n) => n
  | _ => 0

/-- The round in a local. -/
def state (m : Machine) (source : Nat) : LoopState :=
  match m.locals.lookup source with
  | some (.state s) => s
  | _ => .start 0

/-- The checkpoint in a local. -/
def checkpoint (m : Machine) (source : Nat) : Checkpoint :=
  match m.locals.lookup source with
  | some (.checkpoint c) => c
  | _ => m.context.mark

/-- Changes the variables. -/
def withContext (m : Machine) (change : Context → Context) : Machine :=
  { m with context := change m.context }

end Machine

mutual

/-- The value of an expression. -/
def eval (env : Environment) (context : Context) : Expr → Except Failure Value
  | .constant v => .ok v
  | .list items => do return .list (← evalAll env context items)
  | .variable name => .ok (context.get name)
  | .bound name => .ok (.bool (context.contains name))
  | .index base key => do
    let base ← eval env context base
    let key ← eval env context key
    base.index key
  | .unary operation operand => do
    let operand ← eval env context operand
    match Operation.unary? operation with
    | some f => f operand
    | none => .error (.unknownFunction operation)
  | .binary operation left right => do
    let left ← eval env context left
    let right ← eval env context right
    match Operation.binary? operation env.patterns with
    | some f => f left right
    | none => .error (.unknownFunction operation)
  | .both left right => do
    let left ← eval env context left
    if left.truthy then
      let right ← eval env context right
      return .bool right.truthy
    else return .bool false
  | .either left right => do
    let left ← eval env context left
    if left.truthy then return .bool true
    else
      let right ← eval env context right
      return .bool right.truthy
  | .negation operand => do
    let operand ← eval env context operand
    return .bool (!operand.truthy)
  | .choice condition accepted rejected => do
    let condition ← eval env context condition
    if condition.truthy then eval env context accepted else eval env context rejected
  | .callPath path args => do
    let args ← evalAll env context args
    env.callPath path args
  | .callExtension extension method args => do
    let extension ← env.extension extension
    let args ← evalAll env context args
    extension.call method args
  | .callBinding binding args => do
    let args ← evalAll env context args
    env.invokeCallback binding args
  | .callHelper name args => do
    let args ← evalAll env context args
    env.callHelper name args
  | .callMethod receiver name args => do
    let receiver ← eval env context receiver
    let args ← evalAll env context args
    env.callMethod receiver name args

/-- The values of expressions, from left to right. -/
def evalAll (env : Environment) (context : Context) : List Expr → Except Failure (List Value)
  | [] => .ok []
  | item :: rest => do
    let value ← eval env context item
    let values ← evalAll env context rest
    return value :: values

end

/-- Whether a test passes. -/
def Test.passes (env : Environment) (m : Machine) : Test → Except Failure Bool
  | .holds condition => do
    let value ← eval env m.context condition
    return value.truthy
  | .equals subject candidate => do
    let value ← eval env m.context candidate
    return (m.value subject).looselyEqual value

/-- How a template is included: the value that names it, the variables and the output. -/
abbrev Includer := Value → Context → Output → Except Failure (Context × Output)

mutual

/-- Runs a statement. -/
def exec (env : Environment) (includer : Includer) (m : Machine) : Stmt → Except Failure Machine
  | .writeText text => .ok { m with output := m.output.writeText text }
  | .writeEscaped value => do
    let v ← eval env m.context value
    return { m with output := m.output.writeEscaped v }
  | .writeValue value => do
    let v ← eval env m.context value
    return { m with output := m.output.writeValue v }
  | .evaluate value => do
    let _ ← eval env m.context value
    return m
  | .hold target value => do
    let v ← eval env m.context value
    return m.hold target (.value v)
  | .assign name source => .ok (m.withContext (·.set name (m.value source)))
  | .unassign name => .ok (m.withContext (·.remove name))
  | .include source => do
    let (context, output) ← includer (m.value source) m.context m.output
    return { m with context := context, output := output }
  | .pushScope => .ok (m.withContext (·.pushScope))
  | .popScope => .ok (m.withContext (·.popScope))
  | .checkpoint target =>
    .ok ((m.hold target (.checkpoint m.context.mark)).withContext (·.openCheckpoint))
  | .rollback source => .ok (m.withContext (·.rollback (m.checkpoint source)))
  | .holdEntries target value => do
    let v ← eval env m.context value
    let pairs ← v.entries
    return m.hold target (.entries pairs)
  | .holdEmptiness target entries => .ok (m.hold target (.flag (m.entries entries).isEmpty))
  | .holdLength target entries => .ok (m.hold target (.count (m.entries entries).length))
  | .holdState target entries =>
    .ok (m.hold target (.state (LoopState.start (m.entries entries).length)))
  | .advance state => .ok (m.hold state (.state (m.state state).advance))
  | .assignState state => .ok (m.withContext (·.set "loop" (m.state state).toValue))
  | .assignRound index length =>
    .ok (m.withContext (·.set "loop" (LoopState.mk (m.count index) (m.count length)).toValue))
  | .each key value entries body =>
    (m.entries entries).foldlM
      (fun m entry => execAll env includer ((m.hold key (.value entry.1)).hold value (.value entry.2)) body) m
  | .eachNumbered index key value entries body =>
    (m.entries entries).zipIdx.foldlM
      (fun m entry =>
        execAll env includer
          (((m.hold index (.count entry.2)).hold key (.value entry.1.1)).hold value (.value entry.1.2)) body) m
  | .branch test body rest => do
    if ← test.passes env m then execAll env includer m body
    else execChain env includer m rest
  | .whenSet flag body => if m.flag flag then execAll env includer m body else .ok m
  | .block body => execAll env includer m body
  | .labelled _ body => execAll env includer m body

/-- Runs statements in order. -/
def execAll (env : Environment) (includer : Includer) (m : Machine) :
    List Stmt → Except Failure Machine
  | [] => .ok m
  | statement :: rest => do
    let m ← exec env includer m statement
    execAll env includer m rest

/-- Runs the first branch whose test passes, or the last body if none does. -/
def execChain (env : Environment) (includer : Includer) (m : Machine) : Chain → Except Failure Machine
  | .done => .ok m
  | .otherwise body => execAll env includer m body
  | .orElse test body rest => do
    if ← test.passes env m then execAll env includer m body
    else execChain env includer m rest

end

end Templating.Code
