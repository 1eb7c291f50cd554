import Templating.Compile.Expression

/-! # Compiling statements

Tags become statements. Locals are numbered in the order in which they are needed, without a gap through
the whole module. The body of a nested template becomes a template of its own.
-/

namespace Templating.Compile

/-- What has been compiled so far of a module. -/
structure Progress where
  /-- The number of the next local. -/
  nextLocal : Nat := 0
  /-- The nested templates that have ended, in that order. -/
  finished : List Code.Template := []
  /-- The nested templates that have begun: the names of their types with their own names. -/
  typeNames : List (String × String) := []

/-- Takes the next numbers for locals. -/
def Progress.reserve (p : Progress) (count : Nat) : Progress :=
  { p with nextLocal := p.nextLocal + count }

/-- What compiling a module depends on. -/
structure Setting where
  /-- What the template may use. -/
  registries : Registries
  /-- The name of the template. -/
  mainName : String

/-- The only child of a tag. -/
def onlyChild (tag : String) (children : List Tree) (line : Nat) : Except CompileError Tree :=
  match children with
  | [child] => .ok child
  | _ => .error (.layout (.childCount tag children.length) line)

/-- Compiles a tag that prints. -/
def print (s : Setting) (children : List Tree) (line : Nat) (notes : Annotations) :
    Except CompileError (List Code.Stmt) := do
  let child ← onlyChild "print" children line
  if notes.flag "text" false then
    match child with
    | .data (.string text) _ _ => .ok [.writeText text]
    | .missing id => .error (.layout (.missingNode id) 0)
    | other => .error (.layout .textNotString other.line)
  else
    let value ← expression s.registries child
    if notes.flag "safe" false then return [.writeValue value] else return [.writeEscaped value]

/-- Compiles an assignment. -/
def assignment (s : Setting) (children : List Tree) (line : Nat) (notes : Annotations) (p : Progress) :
    Except CompileError (List Code.Stmt × Progress) := do
  let child ← onlyChild "set" children line
  match notes.text? "name" with
  | none => .error (.layout .missingVariable line)
  | some name =>
    let value ← expression s.registries child
    return ([.hold p.nextLocal value, .assign name p.nextLocal], p.reserve 1)

/-- Compiles an inclusion. -/
def inclusion (s : Setting) (children : List Tree) (line : Nat) (p : Progress) :
    Except CompileError (List Code.Stmt × Progress) := do
  let child ← onlyChild "include" children line
  let value ← expression s.registries child
  return ([.hold p.nextLocal value, .include p.nextLocal], p.reserve 1)

/-- Begins a nested template. Its name and the name of its type must be new to the module. -/
def beginNested (s : Setting) (name : String) (line : Nat) (p : Progress) :
    Except CompileError Progress :=
  let typeName := Code.nestedTypeName name
  let other := p.typeNames.lookup typeName
  if name = s.mainName ∨ other = some name then .error (.layout (.definedTwice name) line)
  else
    match other with
    | some other => .error ⟨.collision name other typeName, line⟩
    | none => .ok { p with typeNames := (typeName, name) :: p.typeNames }

/-- Ends a nested template. -/
def endNested (name : String) (body : List Code.Stmt) (p : Progress) : Progress :=
  { p with finished := p.finished ++ [⟨name, Code.nestedTypeName name, body⟩] }

/-- A chain of branches as statements. -/
def chainStatements : Code.Chain → List Code.Stmt
  | .done => []
  | .otherwise body => [.block body]
  | .orElse test body rest => [.branch test body rest]

/-- How many of the children of a tag form pairs, given whether the last one stands alone. -/
def pairedCount (hasLast : Bool) (children : List Tree) : Nat :=
  if hasLast then children.length - 1 else children.length

/-- What a loop does, as far as its annotations say. -/
structure LoopPlan where
  /-- The variable of the keys. -/
  keyVariable : Option String
  /-- The variable of the values. -/
  valueVariable : String
  /-- Whether the round of the loop is kept in a local. -/
  keepsState : Bool
  /-- Whether the loop shares the scope of the loop around it. -/
  sharesScope : Bool
  /-- Whether the loop has a branch for no entries. -/
  hasElse : Bool

/-- The locals of a loop. -/
structure LoopLocals where
  /-- The checkpoint, if the loop shares a scope. -/
  mark : Nat
  /-- The entries. -/
  entries : Nat
  /-- Whether there are entries, if there is a branch for none. -/
  empty : Nat
  /-- The key. -/
  key : Nat
  /-- The value. -/
  value : Nat
  /-- The round, or the number of entries. -/
  state : Nat
  /-- The number of the entry, if the round is not kept. -/
  index : Nat
  /-- The first number behind the locals of the loop. -/
  behind : Nat

/-- The locals of a loop, numbered from `next` on without a gap. -/
def LoopPlan.locals (plan : LoopPlan) (next : Nat) : LoopLocals :=
  let entries := if plan.sharesScope then next + 1 else next
  let key := if plan.hasElse then entries + 2 else entries + 1
  { mark := next, entries := entries, empty := entries + 1, key := key, value := key + 1, state := key + 2,
    index := key + 3, behind := if plan.keepsState then key + 3 else key + 4 }

/-- Gives a loop its scope. -/
def LoopPlan.opening (plan : LoopPlan) (l : LoopLocals) : Code.Stmt :=
  if plan.sharesScope then .checkpoint l.mark else .pushScope

/-- Takes the scope of a loop away. -/
def LoopPlan.closing (plan : LoopPlan) (l : LoopLocals) : Code.Stmt :=
  if plan.sharesScope then .rollback l.mark else .popScope

/-- Gives the variables of a loop their values. -/
def LoopPlan.bindings (plan : LoopPlan) (l : LoopLocals) : List Code.Stmt :=
  (plan.keyVariable.toList.map fun key => .assign key l.key) ++ [.assign plan.valueVariable l.value]

/-- Runs the rounds of a loop. -/
def LoopPlan.repetition (plan : LoopPlan) (l : LoopLocals) (body : List Code.Stmt) : List Code.Stmt :=
  if plan.keepsState then
    [.holdState l.state l.entries,
      .each l.key l.value l.entries (plan.bindings l ++ .assignState l.state :: body ++ [.advance l.state])]
  else
    [.holdLength l.state l.entries,
      .eachNumbered l.index l.key l.value l.entries (plan.bindings l ++ .assignRound l.index l.state :: body)]

/-- The statements of a loop around its body. -/
def LoopPlan.statements (plan : LoopPlan) (l : LoopLocals) (iterable : Code.Expr)
    (body otherwise : List Code.Stmt) : List Code.Stmt :=
  [plan.opening l, .holdEntries l.entries iterable]
    ++ (if plan.hasElse then [.holdEmptiness l.empty l.entries] else [])
    ++ plan.repetition l body ++ [plan.closing l]
    ++ (if plan.hasElse then [.whenSet l.empty otherwise] else [])

/-- The plan of a loop. -/
def loopPlan (notes : Annotations) (inLoop : Bool) (children : List Tree) (line : Nat) :
    Except CompileError LoopPlan :=
  if children.length = 2 ∨ children.length = 3 then
    match notes.text? "value_var" with
    | none => .error (.layout .missingLoopVariable line)
    | some value =>
      .ok {
        keyVariable := notes.text? "key_var"
        valueVariable := value
        keepsState := notes.flag "needs_temp" true
        sharesScope := notes.flag "reuse_context" false && inLoop
        hasElse := children.length == 3 }
  else .error (.layout (.loopChildren children.length) line)

theorem loopPlan_counted {notes : Annotations} {inLoop : Bool} {children : List Tree} {line : Nat} {plan : LoopPlan}
    (planned : loopPlan notes inLoop children line = .ok plan) :
    (children.length = 2 ∨ children.length = 3) ∧ plan.hasElse = (children.length == 3) := by
  unfold loopPlan at planned
  split at planned
  · rename_i counted
    split at planned
    · cases planned
    · cases planned
      exact ⟨counted, rfl⟩
  · cases planned

mutual

/-- Compiles a statement. `inLoop` says whether it lies in a loop of the same template. -/
def statement (s : Setting) (inLoop : Bool) (p : Progress) :
    Tree → Except CompileError (List Code.Stmt × Progress)
  | .root children _ _ => statements s inLoop p children
  | .block children _ _ => statements s inLoop p children
  | .tag id children line notes =>
    match s.registries.tags.get? id with
    | none => .error (.layout (.unregistered "tag") line)
    | some definition =>
      match definition.form with
      | .print => do
        let written ← print s children line notes
        return (written, p)
      | .assignment => assignment s children line notes p
      | .inclusion => inclusion s children line p
      | .conditional =>
        let count := pairedCount (notes.flag "has_else" false) children
        if count = 0 ∨ count % 2 = 1 then .error (.layout (.unpairedBranches count) line)
        else do
          let (chain, p) ← branches s inLoop .holds p children
          return (chainStatements chain, p)
      | .switch => switch s inLoop p line (notes.flag "has_default" false) children
      | .loop => do
        let plan ← loopPlan notes inLoop children line
        loop s inLoop p plan children
      | .nested => nested s p line (notes.text? "name") children
      | .custom takesExpression => do
        let (content, p) ← custom s inLoop p takesExpression children
        return ([.labelled definition.keyword content], p)
  | .missing id => .error (.layout (.missingNode id) 0)
  | .operator _ _ _ _ line _ => .error (.layout (.expressionAsStatement "operator") line)
  | .call _ _ _ line _ => .error (.layout (.expressionAsStatement "function") line)
  | .data _ line _ => .error (.layout (.expressionAsStatement "data") line)
  | .list _ line _ => .error (.layout (.expressionAsStatement "data") line)
  | .variable _ line _ => .error (.layout (.expressionAsStatement "variable") line)
  | .identifier _ line _ => .error (.layout (.expressionAsStatement "identifier") line)
  | .index _ _ line _ => .error (.layout (.expressionAsStatement "array index") line)

/-- Compiles statements in order. -/
def statements (s : Setting) (inLoop : Bool) (p : Progress) :
    List Tree → Except CompileError (List Code.Stmt × Progress)
  | [] => .ok ([], p)
  | child :: children => do
    let (first, p) ← statement s inLoop p child
    let (rest, p) ← statements s inLoop p children
    return (first ++ rest, p)

/-- Compiles pairs of a value and a body to a chain of branches; a last body without a value runs when no
test passes. -/
def branches (s : Setting) (inLoop : Bool) (test : Code.Expr → Code.Test) (p : Progress) :
    List Tree → Except CompileError (Code.Chain × Progress)
  | [] => .ok (.done, p)
  | [last] => do
    let (body, p) ← statement s inLoop p last
    return (.otherwise body, p)
  | value :: content :: children => do
    let value ← expression s.registries value
    let (body, p) ← statement s inLoop p content
    let (rest, p) ← branches s inLoop test p children
    return (.orElse (test value) body rest, p)

/-- Compiles a choice by the value of its first child. -/
def switch (s : Setting) (inLoop : Bool) (p : Progress) (line : Nat) (hasDefault : Bool) :
    List Tree → Except CompileError (List Code.Stmt × Progress)
  | [] => .error (.layout .missingSubject line)
  | subject :: cases =>
    let count := pairedCount hasDefault cases
    if count % 2 = 1 then .error (.layout (.unpairedCases count) line)
    else do
      let subject ← expression s.registries subject
      let (chain, p') ← branches s inLoop (.equals p.nextLocal) (p.reserve 1) cases
      return (.hold p.nextLocal subject :: chainStatements chain, p')

/-- Compiles a loop with its container, its body and perhaps a branch for no entries. -/
def loop (s : Setting) (inLoop : Bool) (p : Progress) (plan : LoopPlan) :
    List Tree → Except CompileError (List Code.Stmt × Progress)
  | [iterable, content] => do
    let iterable ← expression s.registries iterable
    let l := plan.locals p.nextLocal
    let (body, p) ← statement s true { p with nextLocal := l.behind } content
    return (plan.statements l iterable body [], p)
  | [iterable, content, last] => do
    let iterable ← expression s.registries iterable
    let l := plan.locals p.nextLocal
    let (body, p) ← statement s true { p with nextLocal := l.behind } content
    let (otherwise, p) ← statement s inLoop p last
    return (plan.statements l iterable body otherwise, p)
  | _ => .ok ([], p)

/-- Compiles a nested template. Nothing is left of it where it stands. -/
def nested (s : Setting) (p : Progress) (line : Nat) (name : Option String) :
    List Tree → Except CompileError (List Code.Stmt × Progress)
  | [content] =>
    match name with
    | none => .error (.layout .missingName line)
    | some name => do
      let p ← beginNested s name line p
      let (body, p) ← statement s false p content
      return ([], endNested name body p)
  | _ => .error (.layout .blockCount line)

/-- Compiles the children of any other tag, the first of which may be an expression. -/
def custom (s : Setting) (inLoop : Bool) (p : Progress) (takesExpression : Bool) :
    List Tree → Except CompileError (List Code.Stmt × Progress)
  | [] => .ok ([], p)
  | first :: children =>
    if takesExpression then do
      let value ← expression s.registries first
      let (rest, p) ← statements s inLoop p children
      return (.evaluate value :: rest, p)
    else do
      let (content, p) ← statement s inLoop p first
      let (rest, p) ← statements s inLoop p children
      return (content ++ rest, p)

end

/-- Compiles the tree of a template. -/
def template (s : Setting) (tree : Option Tree) : Except CompileError Code.Module :=
  match tree with
  | none => .error (.layout .noRoot 1)
  | some tree => do
    let (body, p) ← statement s false {} tree
    return { main := ⟨s.mainName, "Template", body⟩, nested := p.finished }

end Templating.Compile
