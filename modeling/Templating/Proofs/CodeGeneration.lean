import Templating.Proofs.Compilation
import Templating.Proofs.CoreProgram
import Templating.Proofs.Interpretation
import Templating.Proofs.LoopScope

/-! # Generated code does what trees say

The code of an expression has the value of its tree. The code of a statement is that of a program, and the
program does to output and variables what the tree says, whatever form its loops have and wherever its locals
are numbered from. There is a lemma for each tag, which takes the same of its children for granted.
-/

namespace Templating

namespace Compile

section

variable {r : Registries} {env : Environment} {context : Context}

theorem strategy_eval {operands : Operands} {values : Interpret.Operands} {chosen : Strategy} {e : Code.Expr}
    (left : ∀ e, operands.left = .ok e → Code.eval env context e = values.left)
    (middle : ∀ e, operands.middle = .ok e → Code.eval env context e = values.middle)
    (right : ∀ e, operands.right = .ok e → Code.eval env context e = values.right)
    (bound : values.isBound = operands.variableName.map context.contains)
    (compiled : strategy operands chosen = .ok e) :
    Code.eval env context e = Interpret.strategy env.patterns values chosen := by
  induction chosen generalizing e with
  | binary operation =>
      obtain ⟨first, one, compiled⟩ := bind_eq_ok.mp compiled
      obtain ⟨second, two, ⟨⟩⟩ := bind_eq_ok.mp compiled
      rw [Code.eval, left first one, right second two]
      rfl
  | unary operation =>
      obtain ⟨only, one, ⟨⟩⟩ := bind_eq_ok.mp compiled
      rw [Code.eval, right only one]
      rfl
  | test operation =>
      obtain ⟨only, one, ⟨⟩⟩ := bind_eq_ok.mp compiled
      rw [Code.eval, left only one]
      rfl
  | isSet =>
      rw [strategy] at compiled
      rw [Interpret.strategy, bound]
      split at compiled
      · rename_i name isVariable
        cases compiled
        rw [isVariable, Code.eval]
        rfl
      · rename_i noVariable
        obtain ⟨only, one, ⟨⟩⟩ := bind_eq_ok.mp compiled
        rw [noVariable, Code.eval, left only one]
        rfl
  | both =>
      obtain ⟨first, one, compiled⟩ := bind_eq_ok.mp compiled
      obtain ⟨second, two, ⟨⟩⟩ := bind_eq_ok.mp compiled
      rw [Code.eval, left first one, right second two]
      rfl
  | either =>
      obtain ⟨first, one, compiled⟩ := bind_eq_ok.mp compiled
      obtain ⟨second, two, ⟨⟩⟩ := bind_eq_ok.mp compiled
      rw [Code.eval, left first one, right second two]
      rfl
  | negation =>
      obtain ⟨only, one, ⟨⟩⟩ := bind_eq_ok.mp compiled
      rw [Code.eval, right only one]
      rfl
  | conditional =>
      obtain ⟨condition, one, compiled⟩ := bind_eq_ok.mp compiled
      obtain ⟨accepted, two, compiled⟩ := bind_eq_ok.mp compiled
      obtain ⟨rejected, three, ⟨⟩⟩ := bind_eq_ok.mp compiled
      rw [Code.eval, left condition one, middle accepted two, right rejected three]
      rfl
  | negate positive ih =>
      obtain ⟨inner, one, ⟨⟩⟩ := bind_eq_ok.mp compiled
      rw [Code.eval, ih one]
      rfl

theorem scalar_eval {value : Scalar} {line : Nat} {e : Code.Expr} (compiled : scalar value line = .ok e) :
    Code.eval env context e = .ok value.toValue := by
  cases value with
  | float x =>
      rw [scalar] at compiled
      split at compiled
      · cases compiled
        rfl
      · cases compiled
  | null | bool | int | string =>
      cases compiled
      rfl

theorem call_eval {callee : Callee} {args : List Code.Expr} {line : Nat} {e : Code.Expr}
    (compiled : call r callee args line = .ok e) :
    Code.eval env context e = Interpret.call r env callee (Code.evalAll env context args) := by
  cases callee with
  | named name =>
      cases compiled
      rw [Code.eval]
      rfl
  | resolved id =>
      rw [call] at compiled
      rw [Interpret.call]
      cases known : r.functions.get? id with
      | none =>
          rw [known] at compiled
          cases compiled
      | some function =>
          rw [known] at compiled
          dsimp only at compiled ⊢
          cases invocation : function.invocation with
          | simple path =>
              rw [invocation] at compiled
              cases compiled
              rw [Code.eval]
          | method extension method =>
              rw [invocation] at compiled
              cases compiled
              rw [Code.eval]
          | callback binding =>
              rw [invocation] at compiled
              cases compiled
              rw [Code.eval]

theorem methodName_eq {callee : Callee} {line : Nat} {name : String} (compiled : methodName r callee line = .ok name) :
    Interpret.methodName r callee = name := by
  cases callee with
  | named own =>
      cases compiled
      rfl
  | resolved id =>
      rw [methodName] at compiled
      split at compiled
      · cases compiled
      · rename_i function known
        cases compiled
        rw [Interpret.methodName, known]
        rfl

theorem isBound_eq (operand : Option Tree) :
    Interpret.isBound context operand = (variableName operand).map context.contains := by
  cases operand with
  | none => rfl
  | some tree => cases tree <;> rfl

mutual

theorem expression_eval {tree : Tree} {e : Code.Expr} (compiled : expression r tree = .ok e) :
    Code.eval env context e = Interpret.expression r env context tree := by
  cases tree with
  | data value line notes =>
      rw [expression] at compiled
      rw [Interpret.expression, scalar_eval compiled]
  | list items line notes =>
      rw [expression] at compiled
      obtain ⟨values, one, ⟨⟩⟩ := bind_eq_ok.mp compiled
      rw [Code.eval, Interpret.expression, expressions_eval one]
  | «variable» name line notes =>
      cases compiled
      rw [Code.eval, Interpret.expression]
  | identifier name line notes =>
      cases compiled
      rw [Code.eval, Interpret.expression]
  | index base key line notes =>
      rw [expression] at compiled
      obtain ⟨first, one, compiled⟩ := bind_eq_ok.mp compiled
      obtain ⟨second, two, ⟨⟩⟩ := bind_eq_ok.mp compiled
      rw [Code.eval, Interpret.expression, expression_eval one, expression_eval two]
  | operator id left middle right line notes =>
      rw [expression] at compiled
      rw [Interpret.expression]
      cases known : r.operators.get? id with
      | none =>
          rw [known] at compiled
          cases compiled
      | some definition =>
          rw [known] at compiled
          exact strategy_eval (fun e one => operand_eval one) (fun e one => operand_eval one)
            (fun e one => operand_eval one) (isBound_eq left) compiled
  | call callee receiver args line notes =>
      cases receiver with
      | none =>
          rw [expression] at compiled
          obtain ⟨values, one, compiled⟩ := bind_eq_ok.mp compiled
          rw [Interpret.expression, call_eval compiled, expressions_eval one]
      | some receiver =>
          rw [expression] at compiled
          obtain ⟨values, one, compiled⟩ := bind_eq_ok.mp compiled
          obtain ⟨base, two, compiled⟩ := bind_eq_ok.mp compiled
          obtain ⟨name, three, ⟨⟩⟩ := bind_eq_ok.mp compiled
          rw [Code.eval, Interpret.expression, expression_eval two, expressions_eval one, methodName_eq three]
  | root | block | tag | missing => simp only [expression, reduceCtorEq] at compiled
termination_by structural tree

theorem expressions_eval {items : List Tree} {values : List Code.Expr} (compiled : expressions r items = .ok values) :
    Code.evalAll env context values = Interpret.expressions r env context items := by
  cases items with
  | nil =>
      cases compiled
      rw [Code.evalAll, Interpret.expressions]
  | cons item items =>
      rw [expressions] at compiled
      obtain ⟨first, one, compiled⟩ := bind_eq_ok.mp compiled
      obtain ⟨rest, two, ⟨⟩⟩ := bind_eq_ok.mp compiled
      rw [Code.evalAll, Interpret.expressions, expression_eval one, expressions_eval two]
termination_by structural items

theorem operand_eval {operator : String} {slot : Slot} {line : Nat} {tree : Option Tree} {e : Code.Expr}
    (compiled : operand r operator slot line tree = .ok e) :
    Code.eval env context e = Interpret.operand r env context tree := by
  cases tree with
  | none => simp only [operand, reduceCtorEq] at compiled
  | some tree =>
      rw [operand] at compiled
      rw [Interpret.operand, expression_eval compiled]
termination_by structural tree

end

end

open Code (Matches IncludesAlike)
open Context (Alike Restorable)

/-- The output and the variables that are meant, in a context that can be taken back to `start`. -/
def Reaches (start : Context) (now meaning : Context × Output) : Prop :=
  now.2 = meaning.2 ∧ Alike now.1 meaning.1 ∧ Restorable start now.1

/-- An interpretation does to output and variables what is meant. -/
def Renders (interpreted meant : Context → Output → Except Failure (Context × Output)) : Prop :=
  ∀ left right output, Alike left right → Matches (Reaches left) (interpreted left output) (meant right output)

theorem renders_ok : Renders (fun context output => .ok (context, output)) (fun context output => .ok (context, output)) :=
  fun left _ _ alike => .ok ⟨rfl, alike, .refl left⟩

theorem Renders.bind {f f' g g' : Context → Output → Except Failure (Context × Output)} (first : Renders f g)
    (second : Renders f' g') :
    Renders (fun context output => do let (context, output) ← f context output; f' context output)
      (fun context output => do let (context, output) ← g context output; g' context output) := by
  intro left right output alike
  refine (first left right output alike).bind fun now meaning reached => ?_
  obtain ⟨context, output⟩ := now
  obtain ⟨context', output'⟩ := meaning
  obtain ⟨rfl, alike, restorable⟩ := reached
  exact (second context context' output alike).mono fun _ _ later => ⟨later.1, later.2.1, restorable.trans later.2.2⟩

theorem renders_expression {r : Registries} {env : Environment} {tree : Tree} {e : Code.Expr}
    (compiled : expression r tree = .ok e) {f g : Value → Context → Output → Except Failure (Context × Output)}
    (onward : ∀ v, Renders (f v) (g v)) :
    Renders (fun context output => Interpret.expression r env context tree >>= fun v => f v context output)
      (fun context output => Code.eval env context e >>= fun v => g v context output) := by
  intro left right output alike
  dsimp only
  rw [← expression_eval compiled, show Code.eval env left e = Code.eval env right e from
    Code.eval_congr env env.templates alike e]
  exact Matches.bind_same fun v => onward v left right output alike

/-- A body that a tree compiles to with core tags. -/
def IsCompiled (body : List Code.Stmt) : Prop :=
  ∃ s inLoop p p' tree, CoreForms s ∧ statement s inLoop p tree = .ok (body, p')

/-- The nested templates that are finished between two stages of compiling are compiled ones. -/
def Finishes (p p' : Progress) : Prop :=
  ∀ template ∈ p'.finished, template ∈ p.finished ∨ IsCompiled template.body

theorem Finishes.refl (p : Progress) : Finishes p p :=
  fun _ member => .inl member

theorem Finishes.trans {p middle p' : Progress} (first : Finishes p middle) (second : Finishes middle p') :
    Finishes p p' :=
  fun template member => (second template member).elim (first template) .inr

/-- Code of a program that does what an interpretation says. -/
structure Emits (p : Progress) (code : List Code.Stmt) (p' : Progress)
    (interpreted : Environment → Code.Includer → Context → Output → Except Failure (Context × Output)) : Prop where
  program : ∃ steps, Step.codeAll p.nextLocal steps = (code, p'.nextLocal) ∧
    ∀ env includer, IncludesAlike includer includer →
      Renders (interpreted env includer) (fun context output => Step.runAll env includer context output steps)
  finishes : Finishes p p'

/-- A chain of branches that does what an interpretation says. -/
structure EmitsChain (test : Code.Expr → Code.Test) (p : Progress) (chain : Code.Chain) (p' : Progress)
    (interpreted : Environment → Code.Includer → (Value → Bool) → Context → Output → Except Failure (Context × Output)) :
    Prop where
  program : ∃ branches : Branches, branches.code test p.nextLocal = (chain, p'.nextLocal) ∧
    ∀ env includer passes, IncludesAlike includer includer →
      Renders (interpreted env includer passes) (fun context output => branches.run env includer context output passes)
  finishes : Finishes p p'

theorem runAll_append (env : Environment) (includer : Code.Includer) (context : Context) (output : Output)
    (first rest : List Step) :
    Step.runAll env includer context output (first ++ rest) = (do
      let (context, output) ← Step.runAll env includer context output first
      Step.runAll env includer context output rest) := by
  induction first generalizing context output with
  | nil => rfl
  | cons step first ih => simp only [List.cons_append, Step.runAll, ih, bind_assoc]

theorem runAll_singleton (env : Environment) (includer : Code.Includer) (context : Context) (output : Output)
    (step : Step) : Step.runAll env includer context output [step] = step.run env includer context output := by
  rw [Step.runAll]
  cases step.run env includer context output <;> rfl

theorem Emits.single {p p' : Progress} {code : List Code.Stmt}
    {interpreted : Environment → Code.Includer → Context → Output → Except Failure (Context × Output)} (step : Step)
    (same : step.code p.nextLocal = (code, p'.nextLocal))
    (renders : ∀ env includer, IncludesAlike includer includer →
      Renders (interpreted env includer) (fun context output => step.run env includer context output))
    (finishes : Finishes p p') : Emits p code p' interpreted := by
  refine ⟨⟨[step], by simp [Step.codeAll, same], fun env includer includes => ?_⟩, finishes⟩
  simp only [runAll_singleton]
  exact renders env includer includes

theorem renders_write (write : Output → Output) :
    Renders (fun context output => .ok (context, write output)) (fun context output => .ok (context, write output)) :=
  fun left _ _ alike => .ok ⟨rfl, alike, .refl left⟩

theorem renders_set (name : String) (value : Value) :
    Renders (fun context output => .ok (context.set name value, output))
      (fun context output => .ok (context.set name value, output)) :=
  fun left _ _ alike => .ok ⟨rfl, alike.set name value, .set left name value⟩

theorem interpret_singleton {r : Registries} {env : Environment} {includer : Code.Includer} {context : Context}
    {output : Output} (tree : Tree) : Interpret.statements r env includer context output [tree] =
    Interpret.statement r env includer context output tree := by
  simp only [Interpret.statements]
  cases Interpret.statement r env includer context output tree <;> rfl

section

variable {plan : LoopPlan} {notes : Annotations} {f g : Context → Output → Except Failure (Context × Output)}

theorem bindRound_eq (key : notes.text? "key_var" = plan.keyVariable)
    (value : notes.text? "value_var" = some plan.valueVariable) (entry : Value × Value) (round : LoopState)
    (context : Context) : Interpret.bindRound notes entry round context = plan.bind entry round context := by
  rw [Interpret.bindRound, key, value]
  rfl

theorem rounds_renders (key : notes.text? "key_var" = plan.keyVariable)
    (value : notes.text? "value_var" = some plan.valueVariable) (body : Renders f g) (length index : Nat)
    (entries : List (Value × Value)) :
    Renders (fun context output => Interpret.rounds notes length f index context output entries)
      (fun context output => rounds plan length g index context output entries) := by
  induction entries generalizing index with
  | nil => exact renders_ok
  | cons entry entries ih =>
      intro left right output alike
      dsimp only
      rw [Interpret.rounds, rounds, bindRound_eq key value]
      have bound := plan.alike_bind entry ⟨index, length⟩ alike
      have restorable := plan.restorable_bind entry ⟨index, length⟩ left
      have round := body.bind (ih (index + 1)) _ _ output bound
      exact round.mono fun _ _ reached => ⟨reached.1, reached.2.1, restorable.trans reached.2.2⟩

/-- A loop in a scope that ends with it leaves the variables as they are meant to be. -/
theorem scope_renders (key : notes.text? "key_var" = plan.keyVariable)
    (value : notes.text? "value_var" = some plan.valueVariable) (body : Renders f g)
    {f' g' : Context → Output → Except Failure (Context × Output)}
    (otherwise : Renders f' fun context output => if plan.hasElse then g' context output else .ok (context, output))
    (entries : List (Value × Value)) :
    Renders
      (fun context output => do
        let (inner, output) ← Interpret.rounds notes entries.length f 0 context.pushScope output entries
        if entries.isEmpty then f' inner.popScope output else return (inner.popScope, output))
      (fun context output => do
        let (_, output) ← rounds plan entries.length g 0 context output entries
        if plan.hasElse && entries.isEmpty then g' context output else return (context, output)) := by
  intro left right output alike
  have opened : Alike left.pushScope right := fun name => (Context.get?_pushScope left name).trans (alike name)
  refine (rounds_renders key value body entries.length 0 entries _ _ output opened).bind fun now meaning reached => ?_
  obtain ⟨inner, output⟩ := now
  obtain ⟨context, output'⟩ := meaning
  obtain ⟨rfl, -, restorable⟩ := reached
  -- What the rounds wrote goes with their scope, and the program forgets it as well.
  have closed : Alike inner.popScope right := fun name => (restorable.alike_popScope name).trans (alike name)
  dsimp only
  cases entries.isEmpty with
  | false =>
      rw [Bool.and_false, if_neg Bool.false_ne_true, if_neg Bool.false_ne_true]
      exact .ok ⟨rfl, closed, restorable.popScope⟩
  | true =>
      rw [Bool.and_true, if_pos rfl]
      refine (otherwise _ _ _ closed).mono fun _ _ later => ?_
      exact ⟨later.1, later.2.1, restorable.popScope.trans later.2.2⟩

theorem loop_renders {r : Registries} {env : Environment} {includer : Code.Includer} {iterable content : Tree}
    {last : List Tree} {e : Code.Expr} {body otherwise : List Step} (evaluated : expression r iterable = .ok e)
    (key : notes.text? "key_var" = plan.keyVariable) (value : notes.text? "value_var" = some plan.valueVariable)
    (round : Renders (fun context output => Interpret.statement r env includer context output content)
      fun context output => Step.runAll env includer context output body)
    (afterwards : Renders (fun context output => Interpret.statements r env includer context output last)
      fun context output => if plan.hasElse then Step.runAll env includer context output otherwise
        else .ok (context, output)) :
    Renders (fun context output => Interpret.loop r env includer context output notes (iterable :: content :: last))
      fun context output => (Step.loop plan e body otherwise).run env includer context output := by
  simp only [Interpret.loop, Step.run]
  refine renders_expression evaluated fun v left right output alike => ?_
  exact Matches.bind_same fun entries => scope_renders key value round afterwards entries left right output alike

end

theorem loopPlan_variables {notes : Annotations} {inLoop : Bool} {children : List Tree} {line : Nat} {plan : LoopPlan}
    (planned : loopPlan notes inLoop children line = .ok plan) :
    notes.text? "key_var" = plan.keyVariable ∧ notes.text? "value_var" = some plan.valueVariable := by
  rw [loopPlan] at planned
  split at planned
  · split at planned
    · cases planned
    · rename_i named
      cases planned
      exact ⟨rfl, named⟩
  · cases planned

/-- The code of an annotated tree does what the tree says. -/
def Generates (s : Setting) (tree annotated : Tree) : Prop :=
  ∀ ⦃inLoop p p' code⦄, statement s inLoop p annotated = .ok (code, p') →
    Emits p code p' fun env includer context output => Interpret.statement s.registries env includer context output tree

/-- The chain of annotated branches does what the branches say. -/
def GeneratesChain (s : Setting) (trees annotated : List Tree) : Prop :=
  ∀ ⦃inLoop test p p' chain⦄, branches s inLoop test p annotated = .ok (chain, p') →
    EmitsChain test p chain p' fun env includer passes context output =>
      Interpret.branches s.registries env includer context output passes trees

section

variable {s : Setting} {id line : Nat} {notes notes' : Annotations} {value : Tree}

theorem text_generates {text : String} {inner : Nat} {innerNotes : Annotations}
    (numbered : s.registries.tags.get? id = some Core.printTag) (isText : notes.flag "text" false = true)
    (alike : notes.Alike notes') :
    Generates s (.tag id [.data (.string text) inner innerNotes] line notes)
      (.tag id [.data (.string text) inner innerNotes] line notes') := by
  intro inLoop p p' code compiled
  rw [statement, numbered] at compiled
  dsimp only [Core.printTag] at compiled
  rw [print, onlyChild, ok_bind, alike.flag (by decide), if_pos isText] at compiled
  cases compiled
  simp only [Interpret.statement, numbered, Core.printTag, Interpret.print, if_pos isText]
  exact .single (.text text) rfl (fun env includer _ => renders_write _) (.refl _)

theorem print_generates (numbered : s.registries.tags.get? id = some Core.printTag)
    (isOutput : notes.flag "text" false = false) (alike : notes.Alike notes')
    (safe : notes'.flag "safe" false = value.isSafeCall s.registries) :
    Generates s (.tag id [value] line notes) (.tag id [value] line notes') := by
  intro inLoop p p' code compiled
  rw [statement, numbered] at compiled
  dsimp only [Core.printTag] at compiled
  rw [print, onlyChild, ok_bind, alike.flag (by decide), isOutput, if_neg Bool.false_ne_true, safe, bind_assoc] at compiled
  obtain ⟨e, evaluated, compiled⟩ := bind_eq_ok.mp compiled
  simp only [Interpret.statement, numbered, Core.printTag, Interpret.print, isOutput, if_neg Bool.false_ne_true]
  split at compiled
  · rename_i isSafe
    cases compiled
    refine .single (.output true e) rfl (fun env includer _ => ?_) (.refl _)
    simp only [isSafe, if_true]
    exact renders_expression evaluated fun v => renders_write (·.writeValue v)
  · rename_i isUnsafe
    cases compiled
    refine .single (.output false e) rfl (fun env includer _ => ?_) (.refl _)
    simp only [if_neg isUnsafe]
    exact renders_expression evaluated fun v => renders_write (·.writeEscaped v)

theorem inclusion_generates (numbered : s.registries.tags.get? id = some Core.includeTag) :
    Generates s (.tag id [value] line notes) (.tag id [value] line notes') := by
  intro inLoop p p' code compiled
  rw [statement, numbered] at compiled
  dsimp only [Core.includeTag] at compiled
  rw [inclusion, onlyChild, ok_bind] at compiled
  obtain ⟨e, evaluated, ⟨⟩⟩ := bind_eq_ok.mp compiled
  simp only [Interpret.statement, numbered, Core.includeTag, Interpret.inclusion]
  refine .single (.inclusion e) rfl (fun env includer includes => ?_) (.refl _)
  exact renders_expression evaluated fun v => includes v

theorem assignment_generates {name : String} (numbered : s.registries.tags.get? id = some Core.setTag)
    (named : notes.text? "name" = some name) (alike : notes.Alike notes') :
    Generates s (.tag id [value] line notes) (.tag id [value] line notes') := by
  intro inLoop p p' code compiled
  rw [statement, numbered] at compiled
  dsimp only [Core.setTag] at compiled
  rw [assignment, onlyChild, ok_bind, alike.text? (by decide), named] at compiled
  obtain ⟨e, evaluated, ⟨⟩⟩ := bind_eq_ok.mp compiled
  simp only [Interpret.statement, numbered, Core.setTag, Interpret.assignment, named]
  refine .single (.assign name e) rfl (fun env includer _ => ?_) (.refl _)
  exact renders_expression evaluated fun v => renders_set name v

theorem conditional_generates {children children' : List Tree} (numbered : s.registries.tags.get? id = some Core.ifTag)
    (chain : GeneratesChain s children children') :
    Generates s (.tag id children line notes) (.tag id children' line notes') := by
  intro inLoop p p' code compiled
  rw [statement, numbered] at compiled
  dsimp only [Core.ifTag] at compiled
  split at compiled
  · cases compiled
  · obtain ⟨⟨rest, last⟩, chaining, ⟨⟩⟩ := bind_eq_ok.mp compiled
    obtain ⟨⟨branches, same, renders⟩, finishes⟩ := chain chaining
    simp only [Interpret.statement, numbered, Core.ifTag]
    exact .single (.choose branches) (by simp only [Step.code, same])
      (fun env includer includes => renders env includer Value.truthy includes) finishes

theorem switch_generates {children children' : List Tree} (numbered : s.registries.tags.get? id = some Core.switchTag)
    (chain : GeneratesChain s children children') :
    Generates s (.tag id (value :: children) line notes) (.tag id (value :: children') line notes') := by
  intro inLoop p p' code compiled
  rw [statement, numbered] at compiled
  dsimp only [Core.switchTag] at compiled
  rw [switch] at compiled
  split at compiled
  · cases compiled
  · obtain ⟨e, evaluated, compiled⟩ := bind_eq_ok.mp compiled
    obtain ⟨⟨rest, last⟩, chaining, ⟨⟩⟩ := bind_eq_ok.mp compiled
    obtain ⟨⟨branches, same, renders⟩, finishes⟩ := chain chaining
    simp only [Interpret.statement, numbered, Core.switchTag, Interpret.switch]
    have behind : branches.code (.equals p.nextLocal) (p.nextLocal + 1) = (rest, p'.nextLocal) := same
    refine .single (.switch e branches) (by simp only [Step.code, behind]) (fun env includer includes => ?_) finishes
    exact renders_expression evaluated fun v => renders env includer v.looselyEqual includes

theorem interpret_loop {env : Environment} {includer : Code.Includer} {context : Context} {output : Output}
    {children : List Tree} (numbered : s.registries.tags.get? id = some Core.forTag) :
    Interpret.statement s.registries env includer context output (.tag id children line notes) =
      Interpret.loop s.registries env includer context output notes children := by
  simp only [Interpret.statement, numbered, Core.forTag]

theorem loop_generates {content content' : Tree} (numbered : s.registries.tags.get? id = some Core.forTag)
    (alike : notes.Alike notes') (body : Generates s content content') :
    Generates s (.tag id [value, content] line notes) (.tag id [value, content'] line notes') := by
  intro inLoop p p' code compiled
  rw [statement, numbered] at compiled
  obtain ⟨plan, planned, compiled⟩ := bind_eq_ok.mp compiled
  obtain ⟨key, named⟩ := loopPlan_variables planned
  rw [alike.text? (by decide)] at key named
  have noElse : plan.hasElse = false := (loopPlan_counted planned).2
  rw [loop] at compiled
  obtain ⟨e, evaluated, compiled⟩ := bind_eq_ok.mp compiled
  obtain ⟨⟨inner, last⟩, compiling, ⟨⟩⟩ := bind_eq_ok.mp compiled
  obtain ⟨⟨steps, same, renders⟩, finishes⟩ := body compiling
  have behind : Step.codeAll (plan.locals p.nextLocal).behind steps = (inner, p'.nextLocal) := same
  simp only [interpret_loop numbered]
  refine .single (.loop plan e steps []) (by simp only [Step.code, behind, Step.codeAll, ite_self])
    (fun env includer includes => loop_renders evaluated key named (renders env includer includes) ?_) finishes
  simp only [noElse, Bool.false_eq_true, if_false, Interpret.statements]
  exact renders_ok

theorem loopElse_generates {content content' other other' : Tree}
    (numbered : s.registries.tags.get? id = some Core.forTag) (alike : notes.Alike notes')
    (body : Generates s content content') (otherwise : Generates s other other') :
    Generates s (.tag id [value, content, other] line notes) (.tag id [value, content', other'] line notes') := by
  intro inLoop p p' code compiled
  rw [statement, numbered] at compiled
  obtain ⟨plan, planned, compiled⟩ := bind_eq_ok.mp compiled
  obtain ⟨key, named⟩ := loopPlan_variables planned
  rw [alike.text? (by decide)] at key named
  have hasElse : plan.hasElse = true := (loopPlan_counted planned).2
  rw [loop] at compiled
  obtain ⟨e, evaluated, compiled⟩ := bind_eq_ok.mp compiled
  obtain ⟨⟨inner, middle⟩, compiling, compiled⟩ := bind_eq_ok.mp compiled
  obtain ⟨⟨outer, last⟩, compilingLast, ⟨⟩⟩ := bind_eq_ok.mp compiled
  obtain ⟨⟨steps, same, renders⟩, finishes⟩ := body compiling
  obtain ⟨⟨later, sameLater, rendersLater⟩, finishesLater⟩ := otherwise compilingLast
  have behind : Step.codeAll (plan.locals p.nextLocal).behind steps = (inner, middle.nextLocal) := same
  simp only [interpret_loop numbered]
  refine .single (.loop plan e steps later) (by simp only [Step.code, behind, hasElse, if_true, sameLater])
    (fun env includer includes => loop_renders evaluated key named (renders env includer includes) ?_)
    (finishes.trans finishesLater)
  simp only [hasElse, if_true, interpret_singleton]
  exact rendersLater env includer includes

theorem nested_generates {name : String} {content content' : Tree} (core : CoreForms s)
    (numbered : s.registries.tags.get? id = some Core.templateTag) (named : notes.text? "name" = some name)
    (alike : notes.Alike notes') (body : Generates s content content') :
    Generates s (.tag id [content] line notes) (.tag id [content'] line notes') := by
  intro inLoop p p' code compiled
  rw [statement, numbered] at compiled
  dsimp only [Core.templateTag] at compiled
  rw [alike.text? (by decide), named, nested] at compiled
  obtain ⟨begun, beginning, compiled⟩ := bind_eq_ok.mp compiled
  obtain ⟨⟨inner, last⟩, compiling, ⟨⟩⟩ := bind_eq_ok.mp compiled
  obtain ⟨⟨steps, same, -⟩, finishes⟩ := body compiling
  rw [beginNested_nextLocal beginning] at same
  simp only [Interpret.statement, numbered, Core.templateTag]
  refine .single (.nested steps) (by simp only [Step.code, same, endNested]) (fun env includer _ => renders_ok) ?_
  intro template member
  rcases List.mem_append.mp member with earlier | own
  · rw [← beginNested_finished beginning]
    exact finishes template earlier
  · rw [List.mem_singleton.mp own]
    exact .inr ⟨s, _, _, _, _, core, compiling⟩

theorem statements_generate {trees annotated : List Tree} (each : List.Forall₂ (Generates s) trees annotated)
    {inLoop : Bool} {p p' : Progress} {code : List Code.Stmt}
    (compiled : statements s inLoop p annotated = .ok (code, p')) :
    Emits p code p' fun env includer context output =>
      Interpret.statements s.registries env includer context output trees := by
  induction each generalizing p code with
  | nil =>
      cases compiled
      simp only [Interpret.statements]
      exact ⟨⟨[], rfl, fun env includer _ => by simpa only [Step.runAll] using renders_ok⟩, .refl _⟩
  | cons first _ ih =>
      rw [statements] at compiled
      obtain ⟨⟨one, middle⟩, compiling, compiled⟩ := bind_eq_ok.mp compiled
      obtain ⟨⟨other, last⟩, onward, ⟨⟩⟩ := bind_eq_ok.mp compiled
      obtain ⟨⟨steps, numbered, renders⟩, finishes⟩ := first compiling
      obtain ⟨⟨later, numberedLater, rendersLater⟩, finishesLater⟩ := ih onward
      refine ⟨⟨steps ++ later, by simp [codeAll_append, numbered, numberedLater], ?_⟩, finishes.trans finishesLater⟩
      intro env includer includes
      simp only [Interpret.statements, runAll_append]
      exact (renders env includer includes).bind (rendersLater env includer includes)

theorem block_generates {children children' : List Tree} (each : List.Forall₂ (Generates s) children children') :
    Generates s (.block children line notes) (.block children' line notes') := by
  intro inLoop p p' code compiled
  rw [statement] at compiled
  simp only [Interpret.statement]
  exact statements_generate each compiled

theorem done_generates : GeneratesChain s [] [] := by
  intro inLoop test p p' chain compiled
  cases compiled
  simp only [Interpret.branches]
  exact ⟨⟨.done, rfl, fun env includer passes _ => renders_ok⟩, .refl _⟩

theorem otherwise_generates {content content' : Tree} (body : Generates s content content') :
    GeneratesChain s [content] [content'] := by
  intro inLoop test p p' chain compiled
  rw [branches] at compiled
  obtain ⟨⟨inner, last⟩, compiling, ⟨⟩⟩ := bind_eq_ok.mp compiled
  obtain ⟨⟨steps, same, renders⟩, finishes⟩ := body compiling
  simp only [Interpret.branches]
  exact ⟨⟨.otherwise steps, by simp only [Branches.code, same], fun env includer passes includes =>
    renders env includer includes⟩, finishes⟩

theorem orElse_generates {content content' : Tree} {later later' : List Tree} (body : Generates s content content')
    (rest : GeneratesChain s later later') : GeneratesChain s (value :: content :: later) (value :: content' :: later') := by
  intro inLoop test p p' chain compiled
  rw [branches] at compiled
  obtain ⟨e, evaluated, compiled⟩ := bind_eq_ok.mp compiled
  obtain ⟨⟨inner, middle⟩, compiling, compiled⟩ := bind_eq_ok.mp compiled
  obtain ⟨⟨chain, last⟩, chaining, ⟨⟩⟩ := bind_eq_ok.mp compiled
  obtain ⟨⟨steps, same, renders⟩, finishes⟩ := body compiling
  obtain ⟨⟨branches, sameLater, rendersLater⟩, finishesLater⟩ := rest chaining
  simp only [Interpret.branches]
  refine ⟨⟨.orElse e steps branches, by simp only [Branches.code, same, sameLater], ?_⟩, finishes.trans finishesLater⟩
  intro env includer passes includes
  refine renders_expression evaluated fun v => ?_
  cases passes v with
  | true => exact renders env includer includes
  | false => exact rendersLater env includer passes includes

end

theorem generates_cases {s : Setting} (core : CoreForms s) :
    Parse.RemarkedCases s.registries (Generates s) (GeneratesChain s) where
  text := text_generates
  print numbered isOutput _ alike safe := print_generates numbered isOutput alike safe
  inclusion numbered _ := inclusion_generates numbered
  assignment numbered named _ alike := assignment_generates numbered named alike
  conditional := conditional_generates
  switch numbered _ chain := switch_generates numbered chain
  loop numbered _ alike body := loop_generates numbered alike body
  loopElse numbered _ alike body otherwise := loopElse_generates numbered alike body otherwise
  nested := nested_generates core
  block := block_generates
  done := done_generates
  otherwise := otherwise_generates
  orElse _ body rest := orElse_generates body rest

theorem template_generates {s : Setting} (core : CoreForms s) {tree annotated : Tree}
    (shape : Parse.IsTemplate s.registries tree) (same : Remarked s.registries tree annotated) :
    Generates s tree annotated := by
  intro inLoop p p' code compiled
  obtain ⟨shapes⟩ := shape
  cases same with
  | root children =>
      rw [statement] at compiled
      simp only [Interpret.statement]
      exact statements_generate ((generates_cases core).statements shapes children) compiled

end Compile

end Templating
