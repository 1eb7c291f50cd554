import Templating.Compile.Statement
import Templating.Render.Rendering

/-! # Programs of the core tags

What the core tags say about a run, apart from the locals that hold intermediate results. A program fixes,
loop by loop, how the loop gets its scope and its round; `Step.code` gives the statements that the compiler
makes of it. `Step.run` is the meaning of a program on its own: a loop hands the variables back as it
found them, however its statements arrange that.
-/

namespace Templating.Compile

mutual

/-- What a core tag does. -/
inductive Step where
  /-- Writes a text. -/
  | text (text : String)
  /-- Writes a value, as it is if it is known to be safe. -/
  | output (safe : Bool) (value : Code.Expr)
  /-- Gives a variable a value. -/
  | assign (name : String) (value : Code.Expr)
  /-- Renders the template that a value names. -/
  | inclusion (name : Code.Expr)
  /-- Runs the first branch whose value holds. -/
  | choose (branches : Branches)
  /-- Runs the first branch whose value is loosely equal to the subject. -/
  | switch (subject : Code.Expr) (branches : Branches)
  /-- Runs the body for each entry; without entries, the other steps if the plan has them. -/
  | loop (plan : LoopPlan) (iterable : Code.Expr) (body otherwise : List Step)
  /-- Defines a nested template, which takes numbers for its locals and does nothing. -/
  | nested (body : List Step)

/-- Branches behind each other, of which one runs at most. -/
inductive Branches where
  /-- No more branches. -/
  | done
  /-- The steps that run when no branch before did. -/
  | otherwise (body : List Step)
  /-- A branch with the value that decides, and the branches behind it. -/
  | orElse (value : Code.Expr) (body : List Step) (rest : Branches)

end

mutual

/-- The statements of a step with locals from `next` on, and the first number behind them. -/
def Step.code (next : Nat) : Step → List Code.Stmt × Nat
  | .text text => ([.writeText text], next)
  | .output safe value => ([if safe then .writeValue value else .writeEscaped value], next)
  | .assign name value => ([.hold next value, .assign name next], next + 1)
  | .inclusion name => ([.hold next name, .include next], next + 1)
  | .choose branches =>
    let chain := branches.code .holds next
    (chainStatements chain.1, chain.2)
  | .switch subject branches =>
    let chain := branches.code (.equals next) (next + 1)
    (.hold next subject :: chainStatements chain.1, chain.2)
  | .loop plan iterable body otherwise =>
    let l := plan.locals next
    let content := Step.codeAll l.behind body
    let last := if plan.hasElse then Step.codeAll content.2 otherwise else ([], content.2)
    (plan.statements l iterable content.1 last.1, last.2)
  | .nested body => ([], (Step.codeAll next body).2)

/-- The statements of steps in order. -/
def Step.codeAll (next : Nat) : List Step → List Code.Stmt × Nat
  | [] => ([], next)
  | step :: steps =>
    let first := step.code next
    let rest := Step.codeAll first.2 steps
    (first.1 ++ rest.1, rest.2)

/-- The chain of branches with locals from `next` on, and the first number behind them. -/
def Branches.code (test : Code.Expr → Code.Test) (next : Nat) : Branches → Code.Chain × Nat
  | .done => (.done, next)
  | .otherwise body =>
    let content := Step.codeAll next body
    (.otherwise content.1, content.2)
  | .orElse value body rest =>
    let content := Step.codeAll next body
    let chain := rest.code test content.2
    (.orElse (test value) content.1 chain.1, chain.2)

end

/-- The statements of a whole template. -/
def Step.body (steps : List Step) : List Code.Stmt :=
  (Step.codeAll 0 steps).1

/-- The plan of the same loop with a scope of its own and a round that is kept. -/
def LoopPlan.plain (plan : LoopPlan) : LoopPlan :=
  { plan with keepsState := true, sharesScope := false }

mutual

/-- The same step with every loop in its plain form. -/
def Step.plain : Step → Step
  | .text text => .text text
  | .output safe value => .output safe value
  | .assign name value => .assign name value
  | .inclusion name => .inclusion name
  | .choose branches => .choose branches.plain
  | .switch subject branches => .switch subject branches.plain
  | .loop plan iterable body otherwise =>
    .loop plan.plain iterable (Step.plainAll body) (Step.plainAll otherwise)
  | .nested body => .nested (Step.plainAll body)

/-- The same steps with every loop in its plain form. -/
def Step.plainAll : List Step → List Step
  | [] => []
  | step :: steps => step.plain :: Step.plainAll steps

/-- The same branches with every loop in its plain form. -/
def Branches.plain : Branches → Branches
  | .done => .done
  | .otherwise body => .otherwise (Step.plainAll body)
  | .orElse value body rest => .orElse value (Step.plainAll body) rest.plain

end

/-- The variables at the start of a round. -/
def LoopPlan.bind (plan : LoopPlan) (entry : Value × Value) (round : LoopState) (context : Context) :
    Context :=
  let context := match plan.keyVariable with
    | some key => context.set key entry.1
    | none => context
  (context.set plan.valueVariable entry.2).set "loop" round.toValue

/-- Runs the rounds of a loop from number `index` on. -/
def rounds (plan : LoopPlan) (length : Nat)
    (body : Context → Output → Except Failure (Context × Output)) (index : Nat) (context : Context)
    (output : Output) : List (Value × Value) → Except Failure (Context × Output)
  | [] => .ok (context, output)
  | entry :: entries => do
    let (context, output) ← body (plan.bind entry ⟨index, length⟩ context) output
    rounds plan length body (index + 1) context output entries

mutual

/-- The variables and the output after a step. -/
def Step.run (env : Environment) (includer : Code.Includer) (context : Context) (output : Output) :
    Step → Except Failure (Context × Output)
  | .text text => .ok (context, output.writeText text)
  | .output safe value => do
    let v ← Code.eval env context value
    return (context, if safe then output.writeValue v else output.writeEscaped v)
  | .assign name value => do
    let v ← Code.eval env context value
    return (context.set name v, output)
  | .inclusion name => do
    let v ← Code.eval env context name
    includer v context output
  | .choose branches => branches.run env includer context output Value.truthy
  | .switch subject branches => do
    let v ← Code.eval env context subject
    branches.run env includer context output v.looselyEqual
  | .loop plan iterable body otherwise => do
    let v ← Code.eval env context iterable
    let entries ← v.entries
    let (_, output) ← rounds plan entries.length
      (fun context output => Step.runAll env includer context output body) 0 context output entries
    if plan.hasElse && entries.isEmpty then Step.runAll env includer context output otherwise
    else return (context, output)
  | .nested _ => .ok (context, output)

/-- The variables and the output after steps in order. -/
def Step.runAll (env : Environment) (includer : Code.Includer) (context : Context) (output : Output) :
    List Step → Except Failure (Context × Output)
  | [] => .ok (context, output)
  | step :: steps => do
    let (context, output) ← step.run env includer context output
    Step.runAll env includer context output steps

/-- The variables and the output after the first branch whose value passes. -/
def Branches.run (env : Environment) (includer : Code.Includer) (context : Context) (output : Output)
    (passes : Value → Bool) : Branches → Except Failure (Context × Output)
  | .done => .ok (context, output)
  | .otherwise body => Step.runAll env includer context output body
  | .orElse value body rest => do
    let v ← Code.eval env context value
    if passes v then Step.runAll env includer context output body
    else rest.run env includer context output passes

end

end Templating.Compile
