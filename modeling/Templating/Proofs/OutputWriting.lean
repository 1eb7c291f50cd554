import Templating.Proofs.CompiledTemplates
import Templating.Proofs.OutlineReading
import Templating.Proofs.CoreVocabulary
import Mathlib

/-! # What compiled templates write

Only four statements touch the output, so whatever a run adds to it comes from one of them. The code of a
template has such a statement for each part of the template, in the same order and in the unit that the part
belongs to. A value is written as it is only if it is a direct call of a safe function.
-/

namespace Templating

namespace Code

/-- What a statement does to the output. -/
inductive Write where
  | text (text : String)
  | escaped (value : Expr)
  | raw (value : Expr)
  | inclusion (source : Nat)

mutual

/-- The statements that touch the output, in the order in which they stand. -/
def Stmt.writes : Stmt → List Write
  | .writeText text => [.text text]
  | .writeEscaped value => [.escaped value]
  | .writeValue value => [.raw value]
  | .include source => [.inclusion source]
  | .each _ _ _ body => Stmt.writesAll body
  | .eachNumbered _ _ _ _ body => Stmt.writesAll body
  | .branch _ body rest => Stmt.writesAll body ++ rest.writes
  | .whenSet _ body => Stmt.writesAll body
  | .block body => Stmt.writesAll body
  | .labelled _ body => Stmt.writesAll body
  | _ => []

def Stmt.writesAll : List Stmt → List Write
  | [] => []
  | statement :: rest => statement.writes ++ Stmt.writesAll rest

def Chain.writes : Chain → List Write
  | .done => []
  | .otherwise body => Stmt.writesAll body
  | .orElse _ body rest => Stmt.writesAll body ++ rest.writes

end

theorem writesAll_append (first rest : List Stmt) :
    Stmt.writesAll (first ++ rest) = Stmt.writesAll first ++ Stmt.writesAll rest := by
  induction first with
  | nil => simp [Stmt.writesAll]
  | cons statement first ih => simp [Stmt.writesAll, ih]

/-- What the templates of a module write. -/
def Module.outline (compiled : Module) : Outline Write :=
  ⟨Stmt.writesAll compiled.main.body, compiled.nested.map fun t => (t.name, Stmt.writesAll t.body)⟩

/-- The output grows by these writes, each as often as it likes, and by nothing else. -/
inductive Grows (env : Environment) (includer : Includer) (writes : List Write) : Output → Output → Prop
  | refl (output : Output) : Grows env includer writes output output
  | text {text : String} {output later : Output} :
      .text text ∈ writes → Grows env includer writes (output.writeText text) later → Grows env includer writes output later
  | escaped {e : Expr} {context : Context} {v : Value} {output later : Output} :
      .escaped e ∈ writes → eval env context e = .ok v → Grows env includer writes (output.writeEscaped v) later →
      Grows env includer writes output later
  | raw {e : Expr} {context : Context} {v : Value} {output later : Output} :
      .raw e ∈ writes → eval env context e = .ok v → Grows env includer writes (output.writeValue v) later →
      Grows env includer writes output later
  | inclusion {source : Nat} {v : Value} {context behind : Context} {output between later : Output} :
      .inclusion source ∈ writes → includer v context output = .ok (behind, between) →
      Grows env includer writes between later → Grows env includer writes output later

section

variable {env : Environment} {includer : Includer} {writes more : List Write} {output between later : Output}

theorem Grows.trans (first : Grows env includer writes output between) (second : Grows env includer writes between later) :
    Grows env includer writes output later := by
  induction first with
  | refl => exact second
  | text among _ ih => exact .text among (ih second)
  | escaped among evaluated _ ih => exact .escaped among evaluated (ih second)
  | raw among evaluated _ ih => exact .raw among evaluated (ih second)
  | inclusion among included _ ih => exact .inclusion among included (ih second)

theorem Grows.mono (grows : Grows env includer writes output later) (fewer : writes ⊆ more) :
    Grows env includer more output later := by
  induction grows with
  | refl => exact .refl _
  | text among _ ih => exact .text (fewer among) ih
  | escaped among evaluated _ ih => exact .escaped (fewer among) evaluated ih
  | raw among evaluated _ ih => exact .raw (fewer among) evaluated ih
  | inclusion among included _ ih => exact .inclusion (fewer among) included ih

theorem foldlM_grows {α : Type} {m m' : Machine} {items : List α} {round : Machine → α → Except Failure Machine}
    (rounds : ∀ m item m', round m item = .ok m' → Grows env includer writes m.output m'.output)
    (ran : items.foldlM round m = .ok m') : Grows env includer writes m.output m'.output := by
  induction items generalizing m with
  | nil =>
      cases ran
      exact .refl _
  | cons item items ih =>
      rw [List.foldlM_cons] at ran
      obtain ⟨next, first, rest⟩ := bind_eq_ok.mp ran
      exact (rounds m item next first).trans (ih rest)

mutual

theorem exec_grows {m m' : Machine} {statement : Stmt} (ran : exec env includer m statement = .ok m') :
    Grows env includer statement.writes m.output m'.output := by
  cases statement with
  | writeText text =>
      cases ran
      exact .text (by simp [Stmt.writes]) (.refl _)
  | writeEscaped value =>
      rw [exec] at ran
      obtain ⟨v, evaluated, ⟨⟩⟩ := bind_eq_ok.mp ran
      exact .escaped (by simp [Stmt.writes]) evaluated (.refl _)
  | writeValue value =>
      rw [exec] at ran
      obtain ⟨v, evaluated, ⟨⟩⟩ := bind_eq_ok.mp ran
      exact .raw (by simp [Stmt.writes]) evaluated (.refl _)
  | «include» source =>
      rw [exec] at ran
      obtain ⟨⟨context, output⟩, included, ⟨⟩⟩ := bind_eq_ok.mp ran
      rw [Stmt.writes]
      exact .inclusion (List.mem_singleton_self _) included (.refl _)
  | evaluate value | hold target value =>
      rw [exec] at ran
      obtain ⟨v, -, ⟨⟩⟩ := bind_eq_ok.mp ran
      exact .refl _
  | holdEntries target value =>
      rw [exec] at ran
      obtain ⟨v, -, ran⟩ := bind_eq_ok.mp ran
      obtain ⟨pairs, -, ⟨⟩⟩ := bind_eq_ok.mp ran
      exact .refl _
  | each key value entries body =>
      rw [exec] at ran
      rw [Stmt.writes]
      refine foldlM_grows (fun m item m' round => ?_) ran
      exact (execAll_grows round :)
  | eachNumbered index key value entries body =>
      rw [exec] at ran
      rw [Stmt.writes]
      refine foldlM_grows (fun m item m' round => ?_) ran
      exact (execAll_grows round :)
  | branch test body rest =>
      rw [exec] at ran
      obtain ⟨passes, -, ran⟩ := bind_eq_ok.mp ran
      rw [Stmt.writes]
      split at ran
      · exact (execAll_grows ran).mono (List.subset_append_left _ _)
      · exact (execChain_grows ran).mono (List.subset_append_right _ _)
  | whenSet flag body =>
      rw [exec] at ran
      rw [Stmt.writes]
      split at ran
      · exact execAll_grows ran
      · cases ran
        exact .refl _
  | block body | labelled keyword body =>
      rw [exec] at ran
      rw [Stmt.writes]
      exact execAll_grows ran
  | assign | unassign | pushScope | popScope | checkpoint | rollback | holdEmptiness | holdLength | holdState | advance
  | assignState | assignRound =>
      cases ran
      exact .refl _
termination_by structural statement

theorem execAll_grows {m m' : Machine} {statements : List Stmt} (ran : execAll env includer m statements = .ok m') :
    Grows env includer (Stmt.writesAll statements) m.output m'.output := by
  cases statements with
  | nil =>
      cases ran
      exact .refl _
  | cons statement rest =>
      rw [execAll] at ran
      obtain ⟨next, first, ran⟩ := bind_eq_ok.mp ran
      rw [Stmt.writesAll]
      exact ((exec_grows first).mono (List.subset_append_left _ _)).trans
        ((execAll_grows ran).mono (List.subset_append_right _ _))
termination_by structural statements

theorem execChain_grows {m m' : Machine} {chain : Chain} (ran : execChain env includer m chain = .ok m') :
    Grows env includer chain.writes m.output m'.output := by
  cases chain with
  | done =>
      cases ran
      exact .refl _
  | otherwise body =>
      rw [execChain] at ran
      rw [Chain.writes]
      exact execAll_grows ran
  | orElse test body rest =>
      rw [execChain] at ran
      obtain ⟨passes, -, ran⟩ := bind_eq_ok.mp ran
      rw [Chain.writes]
      split at ran
      · exact (execAll_grows ran).mono (List.subset_append_left _ _)
      · exact (execChain_grows ran).mono (List.subset_append_right _ _)
termination_by structural chain

end

end

end Code

/-- What a part of a tree is compiled to: values are escaped unless they are direct calls of safe functions. -/
inductive Part.Compiles (r : Registries) : Part Tree → Code.Write → Prop
  | text (value : String) : Part.Compiles r (.text value) (.text value)
  | value {tree : Tree} {e : Code.Expr} : Compile.expression r tree = .ok e →
      Part.Compiles r (.value tree) (if tree.isSafeCall r then .raw e else .escaped e)
  | inclusion {tree : Tree} {source : Nat} : Part.Compiles r (.inclusion tree) (.inclusion source)

namespace Compile

open Code (Stmt)

/-- Between two stages of compiling, the parts become these writes and the units of nested templates. -/
def Yields (r : Registries) (parts : Outline (Part Tree)) (p p' : Progress) (writes : List Code.Write) : Prop :=
  ∃ units, p'.finished = p.finished ++ units ∧
    parts.Matches (Part.Compiles r) ⟨writes, units.map fun t => (t.name, Stmt.writesAll t.body)⟩

section

variable {r : Registries} {parts more : Outline (Part Tree)} {p middle p' : Progress} {writes later : List Code.Write}

theorem Yields.silent (same : p'.finished = p.finished) : Yields r {} p p' [] :=
  ⟨[], by simp [same], .empty⟩

theorem Yields.single {part : Part Tree} {write : Code.Write} (same : p'.finished = p.finished)
    (compiles : part.Compiles r write) : Yields r (.single part) p p' [write] :=
  ⟨[], by simp [same], .single compiles⟩

theorem Yields.append (front : Yields r parts p middle writes) (back : Yields r more middle p' later) :
    Yields r (parts ++ more) p p' (writes ++ later) := by
  obtain ⟨units, finished, same⟩ := front
  obtain ⟨rest, finishedRest, sameRest⟩ := back
  refine ⟨units ++ rest, by rw [finishedRest, finished, List.append_assoc], ?_⟩
  simpa [Outline.append_eq] using same.append sameRest

/-- Only the templates that were finished matter in what came before and after. -/
theorem Yields.congr {q q' : Progress} (yields : Yields r parts p p' writes) (before : q.finished = p.finished)
    (behind : q'.finished = p'.finished) : Yields r parts q q' writes := by
  obtain ⟨units, finished, same⟩ := yields
  exact ⟨units, by rw [behind, before, finished], same⟩

end

/-- The code of an annotated tree writes the parts of the tree. -/
def WritesParts (s : Setting) (tree annotated : Tree) : Prop :=
  ∀ ⦃inLoop p p' code⦄, statement s inLoop p annotated = .ok (code, p') →
    Yields s.registries (tree.outline s.registries) p p' (Stmt.writesAll code)

/-- The chain of annotated branches writes the parts of the branches. -/
def WritesChain (s : Setting) (trees annotated : List Tree) : Prop :=
  ∀ ⦃inLoop test p p' chain⦄, branches s inLoop test p annotated = .ok (chain, p') →
    Yields s.registries (Tree.outlineAll s.registries trees) p p' chain.writes

theorem writesAll_chainStatements (chain : Code.Chain) : Stmt.writesAll (chainStatements chain) = chain.writes := by
  cases chain <;> simp [chainStatements, Stmt.writesAll, Stmt.writes, Code.Chain.writes]

/-- A loop writes what its body writes, and behind that what its branch for no entries writes. -/
theorem writesAll_loop (plan : LoopPlan) (l : LoopLocals) (iterable : Code.Expr) (body otherwise : List Stmt) :
    Stmt.writesAll (plan.statements l iterable body otherwise) =
      Stmt.writesAll body ++ if plan.hasElse then Stmt.writesAll otherwise else [] := by
  obtain ⟨key, value, keepsState, sharesScope, hasElse⟩ := plan
  cases key <;> cases keepsState <;> cases sharesScope <;> cases hasElse <;>
    simp [LoopPlan.statements, LoopPlan.opening, LoopPlan.closing, LoopPlan.repetition, LoopPlan.bindings,
      Code.writesAll_append, Stmt.writesAll, Stmt.writes]

section

variable {s : Setting} {id line : Nat} {notes notes' : Annotations} {value : Tree}

theorem text_writes {text : String} {inner : Nat} {innerNotes : Annotations}
    (numbered : s.registries.tags.get? id = some Core.printTag) (isText : notes.flag "text" false = true)
    (alike : notes.Alike notes') :
    WritesParts s (.tag id [.data (.string text) inner innerNotes] line notes)
      (.tag id [.data (.string text) inner innerNotes] line notes') := by
  intro inLoop p p' code compiled
  rw [statement, numbered] at compiled
  dsimp only [Core.printTag] at compiled
  rw [print, onlyChild, ok_bind, alike.flag (by decide), if_pos isText] at compiled
  cases compiled
  rw [Tree.outline_print numbered, isText]
  exact .single rfl (.text text)

theorem print_writes (numbered : s.registries.tags.get? id = some Core.printTag)
    (isOutput : notes.flag "text" false = false) (alike : notes.Alike notes')
    (safe : notes'.flag "safe" false = value.isSafeCall s.registries) :
    WritesParts s (.tag id [value] line notes) (.tag id [value] line notes') := by
  intro inLoop p p' code compiled
  rw [statement, numbered] at compiled
  dsimp only [Core.printTag] at compiled
  rw [print, onlyChild, ok_bind, alike.flag (by decide), isOutput, if_neg Bool.false_ne_true, safe, bind_assoc] at compiled
  obtain ⟨e, evaluated, compiled⟩ := bind_eq_ok.mp compiled
  rw [Tree.outline_print numbered, isOutput]
  have compiles := Part.Compiles.value evaluated
  split at compiled
  · rename_i isSafe
    cases compiled
    rw [if_pos isSafe] at compiles
    exact .single rfl compiles
  · rename_i isUnsafe
    cases compiled
    rw [if_neg isUnsafe] at compiles
    exact .single rfl compiles

theorem inclusion_writes (numbered : s.registries.tags.get? id = some Core.includeTag) :
    WritesParts s (.tag id [value] line notes) (.tag id [value] line notes') := by
  intro inLoop p p' code compiled
  rw [statement, numbered] at compiled
  dsimp only [Core.includeTag] at compiled
  rw [inclusion, onlyChild, ok_bind] at compiled
  obtain ⟨e, -, ⟨⟩⟩ := bind_eq_ok.mp compiled
  rw [Tree.outline_inclusion numbered]
  exact .single rfl .inclusion

theorem assignment_writes {name : String} (numbered : s.registries.tags.get? id = some Core.setTag)
    (named : notes.text? "name" = some name) (shape : Parse.IsExpression s.registries value) (alike : notes.Alike notes') :
    WritesParts s (.tag id [value] line notes) (.tag id [value] line notes') := by
  intro inLoop p p' code compiled
  rw [statement, numbered] at compiled
  dsimp only [Core.setTag] at compiled
  rw [assignment, onlyChild, ok_bind, alike.text? (by decide), named] at compiled
  obtain ⟨e, -, ⟨⟩⟩ := bind_eq_ok.mp compiled
  rw [Tree.outline_tag numbered (by simp), Tree.outlineAll, shape.outline]
  exact .silent rfl

theorem conditional_writes {children children' : List Tree} (numbered : s.registries.tags.get? id = some Core.ifTag)
    (chain : WritesChain s children children') :
    WritesParts s (.tag id children line notes) (.tag id children' line notes') := by
  intro inLoop p p' code compiled
  rw [statement, numbered] at compiled
  dsimp only [Core.ifTag] at compiled
  split at compiled
  · cases compiled
  · obtain ⟨⟨rest, last⟩, chaining, ⟨⟩⟩ := bind_eq_ok.mp compiled
    rw [Tree.outline_tag numbered (by simp), writesAll_chainStatements]
    exact chain chaining

theorem switch_writes {children children' : List Tree} (numbered : s.registries.tags.get? id = some Core.switchTag)
    (shape : Parse.IsExpression s.registries value) (chain : WritesChain s children children') :
    WritesParts s (.tag id (value :: children) line notes) (.tag id (value :: children') line notes') := by
  intro inLoop p p' code compiled
  rw [statement, numbered] at compiled
  dsimp only [Core.switchTag] at compiled
  rw [switch] at compiled
  split at compiled
  · cases compiled
  · obtain ⟨e, -, compiled⟩ := bind_eq_ok.mp compiled
    obtain ⟨⟨rest, last⟩, chaining, ⟨⟩⟩ := bind_eq_ok.mp compiled
    have held : Stmt.writesAll (.hold p.nextLocal e :: chainStatements rest) = rest.writes := by
      simp [Stmt.writesAll, Stmt.writes, writesAll_chainStatements]
    rw [Tree.outline_tag numbered (by simp), Tree.outlineAll, shape.outline, Outline.empty_append, held]
    exact (chain chaining).congr rfl rfl

theorem loop_writes {content content' : Tree} (numbered : s.registries.tags.get? id = some Core.forTag)
    (shape : Parse.IsExpression s.registries value) (body : WritesParts s content content') :
    WritesParts s (.tag id [value, content] line notes) (.tag id [value, content'] line notes') := by
  intro inLoop p p' code compiled
  rw [statement, numbered] at compiled
  obtain ⟨plan, planned, compiled⟩ := bind_eq_ok.mp compiled
  have noElse : plan.hasElse = false := (loopPlan_counted planned).2
  rw [loop] at compiled
  obtain ⟨e, -, compiled⟩ := bind_eq_ok.mp compiled
  obtain ⟨⟨inner, last⟩, compiling, ⟨⟩⟩ := bind_eq_ok.mp compiled
  rw [Tree.outline_tag numbered (by simp), writesAll_loop, noElse]
  simp only [Tree.outlineAll, shape.outline, Outline.empty_append, Outline.append_empty, Bool.false_eq_true, if_false,
    List.append_nil]
  exact (body compiling).congr rfl rfl

theorem loopElse_writes {content content' other other' : Tree}
    (numbered : s.registries.tags.get? id = some Core.forTag) (shape : Parse.IsExpression s.registries value)
    (body : WritesParts s content content') (otherwise : WritesParts s other other') :
    WritesParts s (.tag id [value, content, other] line notes) (.tag id [value, content', other'] line notes') := by
  intro inLoop p p' code compiled
  rw [statement, numbered] at compiled
  obtain ⟨plan, planned, compiled⟩ := bind_eq_ok.mp compiled
  have hasElse : plan.hasElse = true := (loopPlan_counted planned).2
  rw [loop] at compiled
  obtain ⟨e, -, compiled⟩ := bind_eq_ok.mp compiled
  obtain ⟨⟨inner, middle⟩, compiling, compiled⟩ := bind_eq_ok.mp compiled
  obtain ⟨⟨outer, last⟩, compilingLast, ⟨⟩⟩ := bind_eq_ok.mp compiled
  rw [Tree.outline_tag numbered (by simp), writesAll_loop, hasElse]
  simp only [Tree.outlineAll, shape.outline, Outline.empty_append, Outline.append_empty, if_true]
  exact ((body compiling).congr rfl rfl).append (otherwise compilingLast)

theorem nested_writes {name : String} {content content' : Tree}
    (numbered : s.registries.tags.get? id = some Core.templateTag) (named : notes.text? "name" = some name)
    (alike : notes.Alike notes') (body : WritesParts s content content') :
    WritesParts s (.tag id [content] line notes) (.tag id [content'] line notes') := by
  intro inLoop p p' code compiled
  rw [statement, numbered] at compiled
  dsimp only [Core.templateTag] at compiled
  rw [alike.text? (by decide), named, nested] at compiled
  obtain ⟨begun, beginning, compiled⟩ := bind_eq_ok.mp compiled
  obtain ⟨⟨inner, last⟩, compiling, ⟨⟩⟩ := bind_eq_ok.mp compiled
  obtain ⟨units, finished, same⟩ := body compiling
  refine ⟨units ++ [⟨name, Code.nestedTypeName name, inner⟩], ?_, ?_⟩
  · rw [endNested, finished, beginNested_finished beginning, List.append_assoc]
  · rw [Tree.outline_nested numbered named]
    simpa [Outline.nested, Stmt.writesAll] using same.nested name

theorem statements_write {trees annotated : List Tree} (each : List.Forall₂ (WritesParts s) trees annotated)
    {inLoop : Bool} {p p' : Progress} {code : List Stmt} (compiled : statements s inLoop p annotated = .ok (code, p')) :
    Yields s.registries (Tree.outlineAll s.registries trees) p p' (Stmt.writesAll code) := by
  induction each generalizing p code with
  | nil =>
      cases compiled
      exact .silent rfl
  | cons first _ ih =>
      rw [statements] at compiled
      obtain ⟨⟨one, middle⟩, compiling, compiled⟩ := bind_eq_ok.mp compiled
      obtain ⟨⟨rest, last⟩, onward, ⟨⟩⟩ := bind_eq_ok.mp compiled
      rw [Tree.outlineAll, Code.writesAll_append]
      exact (first compiling).append (ih onward)

theorem block_writes {children children' : List Tree} (each : List.Forall₂ (WritesParts s) children children') :
    WritesParts s (.block children line notes) (.block children' line notes') := by
  intro inLoop p p' code compiled
  rw [statement] at compiled
  rw [Tree.outline]
  exact statements_write each compiled

theorem otherwise_writes {content content' : Tree} (body : WritesParts s content content') :
    WritesChain s [content] [content'] := by
  intro inLoop test p p' chain compiled
  rw [branches] at compiled
  obtain ⟨⟨inner, last⟩, compiling, ⟨⟩⟩ := bind_eq_ok.mp compiled
  simpa [Tree.outlineAll, Code.Chain.writes] using body compiling

theorem orElse_writes {content content' : Tree} {later later' : List Tree} (shape : Parse.IsExpression s.registries value)
    (body : WritesParts s content content') (rest : WritesChain s later later') :
    WritesChain s (value :: content :: later) (value :: content' :: later') := by
  intro inLoop test p p' chain compiled
  rw [branches] at compiled
  obtain ⟨e, -, compiled⟩ := bind_eq_ok.mp compiled
  obtain ⟨⟨inner, middle⟩, compiling, compiled⟩ := bind_eq_ok.mp compiled
  obtain ⟨⟨chain, last⟩, chaining, ⟨⟩⟩ := bind_eq_ok.mp compiled
  rw [Tree.outlineAll, Tree.outlineAll, shape.outline, Outline.empty_append, Code.Chain.writes]
  exact (body compiling).append (rest chaining)

end

theorem writes_cases (s : Setting) : Parse.RemarkedCases s.registries (WritesParts s) (WritesChain s) where
  text := text_writes
  print numbered isOutput _ alike safe := print_writes numbered isOutput alike safe
  inclusion numbered _ := inclusion_writes numbered
  assignment := assignment_writes
  conditional := conditional_writes
  switch := switch_writes
  loop numbered shape _ body := loop_writes numbered shape body
  loopElse numbered shape _ body otherwise := loopElse_writes numbered shape body otherwise
  nested := nested_writes
  block := block_writes
  done := by
    intro inLoop test p p' chain compiled
    cases compiled
    exact .silent rfl
  otherwise := otherwise_writes
  orElse := orElse_writes

theorem template_writes {s : Setting} {tree annotated : Tree} {unit : Code.Module}
    (shape : Parse.IsTemplate s.registries tree) (same : Remarked s.registries tree annotated)
    (compiled : template s (some annotated) = .ok unit) :
    (tree.outline s.registries).Matches (Part.Compiles s.registries) unit.outline := by
  obtain ⟨shapes⟩ := shape
  obtain ⟨children⟩ := same
  obtain ⟨⟨body, p⟩, compiling, ⟨⟩⟩ := bind_eq_ok.mp compiled
  rw [statement] at compiling
  obtain ⟨units, finished, written⟩ := statements_write ((writes_cases s).statements shapes children) compiling
  have all : p.finished = units := finished
  rw [Tree.outline, Code.Module.outline, all]
  exact written

end Compile

/-- What a part of a source is compiled to: a text to itself, an expression to a value that is escaped unless it
is a direct call of a safe function. -/
inductive Part.Written (r : Registries) : Part (List Token) → Code.Write → Prop
  | text (value : String) : Part.Written r (.text value) (.text value)
  | value {tokens : List Token} {tree : Tree} {e : Code.Expr} :
      Parse.ReadsWhole r tokens tree → Compile.expression r tree = .ok e →
      Part.Written r (.value tokens) (if tree.isSafeCall r then .raw e else .escaped e)
  | inclusion {tokens : List Token} {source : Nat} : Part.Written r (.inclusion tokens) (.inclusion source)

theorem Part.written_of_compiles {r : Registries} {part : Part (List Token)} {shown : Part Tree} {write : Code.Write}
    (reads : part.Reads r shown) (compiles : shown.Compiles r write) : part.Written r write := by
  cases reads with
  | text value =>
      cases compiles
      exact .text value
  | value whole =>
      cases compiles with
      | value compiled => exact .value whole compiled
  | inclusion =>
      cases compiles
      exact .inclusion

namespace Compiler

variable {config : Config} {loader : Loader} {extensions : List Extension} {c : Compiler} {further : List Pass}

/-- The delimiters of a compiler can be used, and its vocabulary is that of its registries. -/
theorem vocabulary_of_build (built : Compiler.build config loader extensions = .ok c) :
    config.delimiters.fault? = none ∧ c.vocabulary = c.registries.vocabulary config.delimiters := by
  obtain ⟨sound, registries, -, rfl⟩ := build_eq_ok built
  rw [Config.fault?] at sound
  split at sound
  · cases sound
  · exact ⟨by assumption, rfl⟩

theorem foldl_addPass (further : List Pass) (c : Compiler) :
    (further.foldl addPass c).registries = c.registries ∧ (further.foldl addPass c).vocabulary = c.vocabulary ∧
      (further.foldl addPass c).config = c.config := by
  induction further generalizing c with
  | nil => exact ⟨rfl, rfl, rfl⟩
  | cons pass further ih => exact ih (c.addPass pass)

theorem isDefault_foldl_addPass (default : c.optimizer.IsDefault)
    (known : ∀ pass ∈ further, pass ∈ Optimizer.standard.passes) : (further.foldl addPass c).optimizer.IsDefault := by
  induction further generalizing c with
  | nil => exact default
  | cons pass further ih =>
      obtain ⟨first, rest⟩ := List.forall_mem_cons.mp known
      exact ih (default.add first) rest

/-- Whatever a source shows, compiled with the core tags and default passes, is written where it stands: texts as
they are, and expressions escaped unless they are direct calls of safe functions. Nothing else reaches the output
but what is included, however the code runs. -/
theorem compileSource_writes (built : Compiler.build config loader extensions = .ok c)
    (functions : ∀ extension ∈ extensions, extension.tags = [])
    (known : ∀ pass ∈ further, pass ∈ Optimizer.standard.passes) {name source text : String}
    (compiled : (further.foldl addPass c).compileSource name source = .ok text) :
    ∃ tokens unit, Source.tokenize c.vocabulary source = .ok tokens ∧ text = unit.text config.cacheNamespace ∧
      (further.foldl addPass c).compileModule name source = .ok unit ∧
      (outlineOf config.fallbackTag tokens).Matches (Part.Written c.registries) unit.outline ∧
      ∀ template ∈ unit.templates, ∀ env includer m m', Code.execAll env includer m template.body = .ok m' →
        Code.Grows env includer (Code.Stmt.writesAll template.body) m.output m'.output := by
  rw [compileSource_eq] at compiled
  obtain ⟨unit, compiling, ⟨⟩⟩ := bind_eq_ok.mp compiled
  obtain ⟨tokens, tree, lexed, parsed, generated⟩ := parsed_of_compileModule compiling
  obtain ⟨configured, passes, registered⟩ := of_build built
  obtain ⟨sameRegistries, sameVocabulary, sameConfig⟩ := foldl_addPass further c
  have default : (further.foldl addPass c).optimizer.IsDefault :=
    isDefault_foldl_addPass (passes ▸ Optimizer.isDefault_standard) known
  have core : c.registries.tags.IsCore := TagRegistry.isCore_of_build registered functions
  have owns := Registries.ownsAliases_operators registered
  obtain ⟨annotated, restored, same, shape, -⟩ :=
    optimize_ofTree_of_core (sameRegistries ▸ core) (sameRegistries ▸ owns) default parsed
  rw [sameVocabulary] at lexed
  rw [restored] at generated
  rw [sameRegistries] at generated same shape parsed
  rw [sameConfig, configured] at parsed
  obtain ⟨sound, vocabulary⟩ := vocabulary_of_build built
  have usable : c.vocabulary.delimiters.fault? = none := vocabulary ▸ sound
  obtain ⟨front, last, rfl, ending, inside⟩ := Source.tokenize_ending usable lexed
  have reads := Parse.template_outlined core owns ending inside parsed
  have writes := Compile.template_writes shape same generated
  have related : ∀ part shown write, Part.Reads c.registries part shown → Part.Compiles c.registries shown write →
      Part.Written c.registries part write := fun _ _ _ => Part.written_of_compiles
  refine ⟨_, unit, lexed, by rw [sameConfig, configured], compiling, reads.comp related writes, ?_⟩
  intro template _ env includer m m' ran
  exact Code.execAll_grows ran

/-- Two functions, one of which is safe. -/
def markupExtension : Extension where
  name := "markup"
  functions := [{ name := "bold", invocation := .simple "markup::bold", isSafe := true },
    { name := "plain", invocation := .simple "markup::plain" }]

def repeatedPasses : List Pass :=
  [OutputSafety.pass, LoopContext.pass]

/-- A source with outputs of every kind, some of them in a nested template. -/
def markupSource : String :=
  "a\x7b\x7b bold(x) \x7d\x7d\x7b% template t %\x7d\x7b% raw(x) %\x7d\x7b% print plain(x) %\x7d\x7b% endtemplate %\x7d" ++
    "\x7b\x7b x \x7d\x7d\x7b% include x %\x7d"

/-- What `markupSource` shows. -/
def markupOutline : Outline (Part (List Token)) :=
  let x : Token := ⟨.identifier, "x", 1⟩
  let call (function : String) : Part (List Token) :=
    .value [⟨.identifier, function, 1⟩, ⟨.punctuation, "(", 1⟩, x, ⟨.punctuation, ")", 1⟩]
  ⟨[.text "a", call "bold", .value [x], .inclusion [x]], [("t", [call "raw", call "plain"])]⟩

theorem markupSource_writes :
    ∃ c unit, Compiler.build { fallbackTag := some "print" } (.ofList []) [markupExtension] = .ok c ∧
      (repeatedPasses.foldl addPass c).compileModule "page" markupSource = .ok unit ∧
      markupOutline.Matches (Part.Written c.registries) unit.outline := by
  -- Symbols are kept in order by a sort that does not compute, so the tokenizer is run with the sorted ones.
  have outcome : (do
      let c ← (Compiler.build { fallbackTag := some "print" } (.ofList []) [markupExtension]).toOption
      let tokens ← (Source.tokenize { c.vocabulary with symbols := coreSymbols } markupSource).toOption
      let tree ← (Parse.template ⟨c.registries, c.config.fallbackTag⟩ tokens).toOption
      let annotated := ((repeatedPasses.foldl addPass c).optimize (.ofTree tree)).toTree?
      let unit ← (Compile.template ⟨c.registries, "page"⟩ annotated).toOption
      return (c.registries.operators.symbols, outlineOf (some "print") tokens)) =
        some (registeredSymbols, markupOutline) := by
    have letters : markupSource.toList = _ :=
      String.toList_append.trans (congrArg₂ (· ++ ·) String.toList_ofList String.toList_ofList)
    rw [Compiler.build, Registries.build_core]
    simp only [tokenize_letters letters]
    decide +kernel
  obtain ⟨c, built, outcome⟩ := Option.bind_eq_some_iff.mp outcome
  obtain ⟨tokens, lexed, outcome⟩ := Option.bind_eq_some_iff.mp outcome
  obtain ⟨tree, parsed, outcome⟩ := Option.bind_eq_some_iff.mp outcome
  obtain ⟨unit, generated, outcome⟩ := Option.bind_eq_some_iff.mp outcome
  rw [toOption_eq_some] at built lexed parsed generated
  obtain ⟨registered, outlined⟩ := Prod.mk.inj (Option.some.inj outcome)
  have sorted : c.vocabulary.symbols = coreSymbols := by
    rw [(vocabulary_of_build built).2, Registries.vocabulary, registered]
    exact addSymbols_registered rfl
  rw [← sorted] at lexed
  have compiling : (repeatedPasses.foldl addPass c).compileModule "page" markupSource = .ok unit := by
    rw [compileModule_of_parsed (c := repeatedPasses.foldl addPass c) lexed parsed]
    have generating : Compile.template ⟨(repeatedPasses.foldl addPass c).registries, "page"⟩ _ = .ok unit := generated
    rw [generating]
  have functions : ∀ extension ∈ [markupExtension], extension.tags = [] := by simp [markupExtension]
  have known : ∀ pass ∈ repeatedPasses, pass ∈ Optimizer.standard.passes := by
    simp [repeatedPasses, Optimizer.passes_standard]
  have compiled : (repeatedPasses.foldl addPass c).compileSource "page" markupSource =
      .ok (unit.text c.config.cacheNamespace) := by
    rw [compileSource_eq, compiling]
    rfl
  obtain ⟨tokens', unit', lexed', -, compiling', written, -⟩ := compileSource_writes built functions known compiled
  have same := lexed.symm.trans lexed'
  cases same
  rw [compiling] at compiling'
  cases compiling'
  exact ⟨c, unit, built, compiling, outlined ▸ written⟩

/-- A source with a blank between a choice and its first branch. -/
def blankBeforeBranch : String :=
  "\x7b% switch x %\x7d\n\x7b% case 1 %\x7da\x7b% endswitch %\x7d"

/-- Its tokens: two texts, and no output. -/
def blankBeforeBranchFaces : List (TokenKind × String) :=
  [(.tagStart, ""), (.keyword, "switch"), (.identifier, "x"), (.tagEnd, ""), (.text, "\n"),
    (.tagStart, ""), (.keyword, "case"), (.literal, "1"), (.tagEnd, ""), (.text, "a"),
    (.tagStart, ""), (.keyword, "endswitch"), (.tagEnd, ""), (.eof, "")]

/-- Such a blank is a text of the source, yet nothing writes it. -/
theorem blankBeforeBranch_unwritten :
    ∃ c tokens unit, Compiler.build {} (.ofList []) [] = .ok c ∧
      Source.tokenize c.vocabulary blankBeforeBranch = .ok tokens ∧
      c.compileModule "page" blankBeforeBranch = .ok unit ∧
      tokens.map Token.face = blankBeforeBranchFaces ∧
      ¬ List.Forall₂ (fun text write => write = Code.Write.text text) (Source.textValues tokens)
        (Code.Stmt.writesAll unit.main.body) := by
  have outcome : (do
      let c ← (Compiler.build {} (.ofList []) []).toOption
      let tokens ← (Source.tokenize c.vocabulary blankBeforeBranch).toOption
      let unit ← (c.compileModule "page" blankBeforeBranch).toOption
      return (tokens.map Token.face, Source.textValues tokens, (Code.Stmt.writesAll unit.main.body).length)) =
        some (blankBeforeBranchFaces, ["\n", "a"], 1) := by
    have letters : blankBeforeBranch.toList = _ := String.toList_ofList
    rw [build_default]
    simp only [tokenize_letters letters, compileModule_letters letters]
    decide +kernel
  obtain ⟨c, built, outcome⟩ := Option.bind_eq_some_iff.mp outcome
  obtain ⟨tokens, lexed, outcome⟩ := Option.bind_eq_some_iff.mp outcome
  obtain ⟨unit, compiled, outcome⟩ := Option.bind_eq_some_iff.mp outcome
  rw [toOption_eq_some] at built lexed compiled
  obtain ⟨faces, more⟩ := Prod.mk.inj (Option.some.inj outcome)
  obtain ⟨texts, count⟩ := Prod.mk.inj more
  refine ⟨c, tokens, unit, built, lexed, compiled, faces, fun written => ?_⟩
  have same := written.length_eq
  rw [texts, count] at same
  cases same

end Compiler

end Templating
