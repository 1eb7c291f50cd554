import Templating.Proofs.CompiledTemplates
import Templating.Proofs.CoreVocabulary
import Templating.Proofs.LoopMarks
import Templating.Proofs.OutputOutline
import Templating.Proofs.ScopeNesting

/-! # The forms of compiled loops

A loop either opens a scope of its own or sets a checkpoint in the scope of the loop around it. The form can be told from
the code alone: it is what was opened before the loop and is closed right behind it. Compiled with the default passes, a
loop sets a checkpoint exactly if it lies in the body of another loop of its template.
-/

namespace Templating

namespace Code

/-- How a loop gets its scope. -/
inductive LoopForm where
  | scope
  | checkpoint
deriving Repr, DecidableEq

/-- The form of a loop, given what was opened last before it and what stands right behind it. -/
def loopForm? : Option Stmt → Option Stmt → Option LoopForm
  | some .pushScope, some .popScope => some .scope
  | some (.checkpoint target), some (.rollback source) => if target = source then some .checkpoint else none
  | _, _ => none

/-- What is open behind a statement. -/
def Stmt.opener (opened : Option Stmt) : Stmt → Option Stmt
  | .pushScope => some .pushScope
  | .checkpoint target => some (.checkpoint target)
  | .popScope => none
  | .rollback _ => none
  | _ => opened

mutual

/-- The forms of the loops inside a statement. -/
def Stmt.innerForms : Stmt → List (Option LoopForm)
  | .each _ _ _ body => Stmt.loopForms none body
  | .eachNumbered _ _ _ _ body => Stmt.loopForms none body
  | .branch _ body rest => Stmt.loopForms none body ++ rest.loopForms
  | .whenSet _ body => Stmt.loopForms none body
  | .block body => Stmt.loopForms none body
  | .labelled _ body => Stmt.loopForms none body
  | _ => []

/-- The forms of the loops in statements in the order of the text, a loop before those inside it. -/
def Stmt.loopForms (opened : Option Stmt) : List Stmt → List (Option LoopForm)
  | [] => []
  | statement :: rest =>
    (if statement.round?.isSome then [loopForm? opened rest.head?] else [])
      ++ (statement.innerForms ++ Stmt.loopForms (statement.opener opened) rest)

def Chain.loopForms : Chain → List (Option LoopForm)
  | .done => []
  | .otherwise body => Stmt.loopForms none body
  | .orElse _ body rest => Stmt.loopForms none body ++ rest.loopForms

end

/-- The forms of the loops in the templates of a module. -/
def Module.loopForms (compiled : Module) : Outline (Option LoopForm) :=
  ⟨Stmt.loopForms none compiled.main.body, compiled.nested.map fun t => (t.name, Stmt.loopForms none t.body)⟩

/-- Nothing is open behind the statements, and the last of them is no loop. -/
def Settled (code : List Stmt) : Prop :=
  ∀ rest, Stmt.loopForms none (code ++ rest) = Stmt.loopForms none code ++ Stmt.loopForms none rest

section

variable {statement : Stmt} {code first rest : List Stmt}

theorem loopForms_quiet (quiet : statement.scopeOps = []) (rounds : statement.round? = none) (opened : Option Stmt)
    (rest : List Stmt) :
    Stmt.loopForms opened (statement :: rest) = statement.innerForms ++ Stmt.loopForms opened rest := by
  have same : statement.opener opened = opened := by cases statement <;> first | rfl | cases quiet
  simp [Stmt.loopForms, rounds, same]

theorem Settled.nil : Settled [] :=
  fun _ => rfl

theorem Settled.append (one : Settled first) (other : Settled rest) : Settled (first ++ rest) := by
  intro more
  rw [List.append_assoc, one, one, other, List.append_assoc]

theorem Settled.single (quiet : statement.scopeOps = []) (rounds : statement.round? = none) : Settled [statement] := by
  intro rest
  rw [List.singleton_append, loopForms_quiet quiet rounds, loopForms_quiet quiet rounds]
  simp [Stmt.loopForms]

theorem settled_of_plain (each : ∀ statement ∈ code, statement.scopeOps = [] ∧ statement.round? = none ∧ statement.innerForms = []) :
    Settled code ∧ Stmt.loopForms none code = [] := by
  induction code with
  | nil => exact ⟨.nil, rfl⟩
  | cons statement code ih =>
      obtain ⟨⟨quiet, rounds, inside⟩, rest⟩ := List.forall_mem_cons.mp each
      obtain ⟨settled, none⟩ := ih rest
      refine ⟨(Settled.single quiet rounds).append settled, ?_⟩
      rw [loopForms_quiet quiet rounds, inside, none, List.append_nil]

end

end Code

mutual

/-- For each loop below a node, whether it lies in the body of a loop of the same template. `inBody` says so of the node. -/
def Tree.loops (r : Registries) (inBody : Bool) : Tree → Outline Bool
  | .root children _ _ => Tree.loopsAll r inBody children
  | .block children _ _ => Tree.loopsAll r inBody children
  | .tag id children _ notes =>
    match (r.tags.get? id).map TagDefinition.form, children with
    | some .loop, _ :: content :: rest => .single inBody ++ (content.loops r true ++ Tree.loopsAll r inBody rest)
    | some .nested, [content] => .nested ((notes.text? "name").getD "") (content.loops r false)
    | _, children => Tree.loopsAll r inBody children
  | _ => {}

def Tree.loopsAll (r : Registries) (inBody : Bool) : List Tree → Outline Bool
  | [] => {}
  | tree :: trees => tree.loops r inBody ++ Tree.loopsAll r inBody trees

end

section

variable {r : Registries} {id line : Nat} {iterable content shown : Tree} {children rest : List Tree} {notes : Annotations}
  {inBody inLoop : Bool} {definition : TagDefinition}

theorem Tree.loops_loop (numbered : r.tags.get? id = some Core.forTag) :
    (Tree.tag id (iterable :: content :: rest) line notes).loops r inBody =
      .single inBody ++ (content.loops r true ++ Tree.loopsAll r inBody rest) := by
  simp [Tree.loops, numbered, Core.forTag]

theorem Tree.loops_nested {name : String} (numbered : r.tags.get? id = some Core.templateTag)
    (named : notes.text? "name" = some name) :
    (Tree.tag id [content] line notes).loops r inBody = .nested name (content.loops r false) := by
  simp [Tree.loops, numbered, named, Core.templateTag]

/-- The tags without a loop or a template of their own. -/
def Core.passive : List TagDefinition :=
  [Core.printTag, Core.ifTag, Core.switchTag, Core.setTag, Core.includeTag]

theorem Tree.loops_tag (numbered : r.tags.get? id = some definition) (passive : definition ∈ Core.passive) :
    (Tree.tag id children line notes).loops r inBody = Tree.loopsAll r inBody children := by
  simp only [Core.passive, List.mem_cons, List.not_mem_nil, or_false] at passive
  rcases passive with rfl | rfl | rfl | rfl | rfl <;>
    simp [Tree.loops, numbered, Core.printTag, Core.ifTag, Core.switchTag, Core.setTag, Core.includeTag]

theorem Tree.noted_loop_iff (numbered : r.tags.get? id = some Core.forTag) :
    (Tree.tag id (iterable :: content :: rest) line notes).Noted r inLoop ↔
      (inLoop = true → notes.flag "reuse_context" false = true) ∧ content.Noted r true ∧ Tree.NotedAll r inLoop rest := by
  simp [Tree.Noted, numbered, Core.forTag]

theorem Tree.noted_nested_iff (numbered : r.tags.get? id = some Core.templateTag) :
    (Tree.tag id children line notes).Noted r inLoop ↔ Tree.NotedAll r false children := by
  simp [Tree.Noted, numbered, Core.templateTag]

theorem Tree.noted_tag_iff (numbered : r.tags.get? id = some definition) (passive : definition ∈ Core.passive) :
    (Tree.tag id children line notes).Noted r inLoop ↔ Tree.NotedAll r inLoop children := by
  simp only [Core.passive, List.mem_cons, List.not_mem_nil, or_false] at passive
  rcases passive with rfl | rfl | rfl | rfl | rfl <;>
    simp [Tree.Noted, numbered, Core.printTag, Core.ifTag, Core.switchTag, Core.setTag, Core.includeTag]

theorem Parse.IsExpression.loops (shape : IsExpression r shown) : shown.loops r inBody = {} := by
  cases shape <;> simp [Tree.loops]

end

namespace Compile

open Code (Stmt Settled)

/-- The form of a loop that lies in the body of another one, or of one that does not. -/
def HasForm (inBody : Bool) (form : Option Code.LoopForm) : Prop :=
  form = some (if inBody then .checkpoint else .scope)

/-- Between two stages of compiling, loops become loops of these forms and those of the templates that are finished. -/
def Forms (loops : Outline Bool) (p p' : Progress) (forms : List (Option Code.LoopForm)) : Prop :=
  ∃ units, p'.finished = p.finished ++ units ∧
    loops.Matches HasForm ⟨forms, units.map fun t => (t.name, Stmt.loopForms none t.body)⟩

section

variable {loops more : Outline Bool} {p middle p' q q' : Progress} {forms later : List (Option Code.LoopForm)}

theorem Forms.none (same : p'.finished = p.finished) : Forms {} p p' [] :=
  ⟨[], by simp [same], .empty⟩

theorem Forms.append (front : Forms loops p middle forms) (back : Forms more middle p' later) :
    Forms (loops ++ more) p p' (forms ++ later) := by
  obtain ⟨units, finished, same⟩ := front
  obtain ⟨rest, finishedRest, sameRest⟩ := back
  refine ⟨units ++ rest, by rw [finishedRest, finished, List.append_assoc], ?_⟩
  simpa [Outline.append_eq] using same.append sameRest

theorem Forms.congr (formed : Forms loops p p' forms) (before : q.finished = p.finished)
    (behind : q'.finished = p'.finished) : Forms loops q q' forms := by
  obtain ⟨units, finished, same⟩ := formed
  exact ⟨units, by rw [behind, before, finished], same⟩

end

/-- The code of an annotated tree has the loops of the tree in their forms. -/
def FormsLoops (s : Setting) (tree annotated : Tree) : Prop :=
  ∀ ⦃inLoop p p' code⦄, annotated.Noted s.registries inLoop → statement s inLoop p annotated = .ok (code, p') →
    Settled code ∧ Forms (tree.loops s.registries inLoop) p p' (Stmt.loopForms none code)

/-- The chain of annotated branches has the loops of the branches in their forms. -/
def FormsChain (s : Setting) (trees annotated : List Tree) : Prop :=
  ∀ ⦃inLoop test p p' chain⦄, Tree.NotedAll s.registries inLoop annotated →
    branches s inLoop test p annotated = .ok (chain, p') →
    Forms (Tree.loopsAll s.registries inLoop trees) p p' chain.loopForms

theorem loopForms_chainStatements (chain : Code.Chain) :
    Settled (chainStatements chain) ∧ Stmt.loopForms none (chainStatements chain) = chain.loopForms := by
  cases chain with
  | done => exact ⟨.nil, rfl⟩
  | otherwise body =>
      refine ⟨.single rfl rfl, ?_⟩
      simp [chainStatements, Stmt.round?, Stmt.innerForms, Stmt.loopForms, Code.Chain.loopForms]
  | orElse test body rest =>
      refine ⟨.single rfl rfl, ?_⟩
      simp [chainStatements, Stmt.round?, Stmt.innerForms, Stmt.loopForms, Code.Chain.loopForms]

/-- A loop has the form of its plan; the loops of its body and of its branch for no entries follow. -/
theorem LoopPlan.loopForms_statements (plan : LoopPlan) (l : LoopLocals) (iterable : Code.Expr) {body : List Stmt}
    (settled : Settled body) (otherwise rest : List Stmt) :
    Stmt.loopForms none (plan.statements l iterable body otherwise ++ rest) =
      some (if plan.sharesScope then .checkpoint else .scope) :: (Stmt.loopForms none body ++
        ((if plan.hasElse then Stmt.loopForms none otherwise else []) ++ Stmt.loopForms none rest)) := by
  have advanced := settled [.advance l.state]
  obtain ⟨key, value, keepsState, sharesScope, hasElse⟩ := plan
  cases key <;> cases keepsState <;> cases sharesScope <;> cases hasElse <;>
    simp [LoopPlan.statements, LoopPlan.opening, LoopPlan.closing, LoopPlan.repetition, LoopPlan.bindings, Stmt.loopForms,
      Stmt.round?, Stmt.innerForms, Stmt.opener, Code.loopForm?, advanced]

theorem LoopPlan.settled_statements (plan : LoopPlan) (l : LoopLocals) (iterable : Code.Expr) {body : List Stmt}
    (settled : Settled body) (otherwise : List Stmt) : Settled (plan.statements l iterable body otherwise) := by
  intro rest
  have alone := plan.loopForms_statements l iterable settled otherwise []
  rw [List.append_nil] at alone
  rw [plan.loopForms_statements l iterable settled, alone]
  simp [Stmt.loopForms]

section

variable {s : Setting} {id line : Nat} {notes notes' : Annotations} {value : Tree}

theorem plain_forms {definition : TagDefinition} {inLoop : Bool} {p p' : Progress} {code : List Stmt}
    (numbered : s.registries.tags.get? id = some definition) (passive : definition ∈ Core.passive)
    (silent : value.loops s.registries inLoop = {}) (same : p'.finished = p.finished)
    (each : ∀ statement ∈ code, statement.scopeOps = [] ∧ statement.round? = none ∧ statement.innerForms = []) :
    Settled code ∧ Forms ((Tree.tag id [value] line notes).loops s.registries inLoop) p p' (Stmt.loopForms none code) := by
  obtain ⟨settled, none⟩ := Code.settled_of_plain each
  rw [Tree.loops_tag numbered passive, Tree.loopsAll, Tree.loopsAll, silent, none]
  exact ⟨settled, .none same⟩

theorem text_forms {text : String} {inner : Nat} {innerNotes : Annotations}
    (numbered : s.registries.tags.get? id = some Core.printTag) (isText : notes.flag "text" false = true)
    (alike : notes.Alike notes') :
    FormsLoops s (.tag id [.data (.string text) inner innerNotes] line notes)
      (.tag id [.data (.string text) inner innerNotes] line notes') := by
  intro inLoop p p' code _ compiled
  rw [statement, numbered] at compiled
  dsimp only [Core.printTag] at compiled
  rw [print, onlyChild, ok_bind, alike.flag (by decide), if_pos isText] at compiled
  cases compiled
  exact plain_forms numbered (by simp [Core.passive]) (by simp [Tree.loops]) rfl
    (List.forall_mem_singleton.mpr ⟨rfl, rfl, rfl⟩)

theorem print_forms (numbered : s.registries.tags.get? id = some Core.printTag) (isOutput : notes.flag "text" false = false)
    (shape : Parse.IsExpression s.registries value) (alike : notes.Alike notes') :
    FormsLoops s (.tag id [value] line notes) (.tag id [value] line notes') := by
  intro inLoop p p' code _ compiled
  rw [statement, numbered] at compiled
  dsimp only [Core.printTag] at compiled
  rw [print, onlyChild, ok_bind, alike.flag (by decide), isOutput, if_neg Bool.false_ne_true, bind_assoc] at compiled
  obtain ⟨e, -, compiled⟩ := bind_eq_ok.mp compiled
  refine plain_forms numbered (by simp [Core.passive]) shape.loops ?_ ?_ <;> split at compiled <;> cases compiled
  · rfl
  · rfl
  · exact List.forall_mem_singleton.mpr ⟨rfl, rfl, rfl⟩
  · exact List.forall_mem_singleton.mpr ⟨rfl, rfl, rfl⟩

theorem inclusion_forms (numbered : s.registries.tags.get? id = some Core.includeTag)
    (shape : Parse.IsExpression s.registries value) :
    FormsLoops s (.tag id [value] line notes) (.tag id [value] line notes') := by
  intro inLoop p p' code _ compiled
  rw [statement, numbered] at compiled
  dsimp only [Core.includeTag] at compiled
  rw [inclusion, onlyChild, ok_bind] at compiled
  obtain ⟨e, -, ⟨⟩⟩ := bind_eq_ok.mp compiled
  exact plain_forms numbered (by simp [Core.passive]) shape.loops rfl
    (List.forall_mem_cons.mpr ⟨⟨rfl, rfl, rfl⟩, List.forall_mem_singleton.mpr ⟨rfl, rfl, rfl⟩⟩)

theorem assignment_forms {name : String} (numbered : s.registries.tags.get? id = some Core.setTag)
    (named : notes.text? "name" = some name) (shape : Parse.IsExpression s.registries value) (alike : notes.Alike notes') :
    FormsLoops s (.tag id [value] line notes) (.tag id [value] line notes') := by
  intro inLoop p p' code _ compiled
  rw [statement, numbered] at compiled
  dsimp only [Core.setTag] at compiled
  rw [assignment, onlyChild, ok_bind, alike.text? (by decide), named] at compiled
  obtain ⟨e, -, ⟨⟩⟩ := bind_eq_ok.mp compiled
  exact plain_forms numbered (by simp [Core.passive]) shape.loops rfl
    (List.forall_mem_cons.mpr ⟨⟨rfl, rfl, rfl⟩, List.forall_mem_singleton.mpr ⟨rfl, rfl, rfl⟩⟩)

theorem conditional_forms {children children' : List Tree} (numbered : s.registries.tags.get? id = some Core.ifTag)
    (chain : FormsChain s children children') : FormsLoops s (.tag id children line notes) (.tag id children' line notes') := by
  intro inLoop p p' code noted compiled
  rw [Tree.noted_tag_iff numbered (by simp [Core.passive])] at noted
  rw [statement, numbered] at compiled
  dsimp only [Core.ifTag] at compiled
  split at compiled
  · cases compiled
  · obtain ⟨⟨rest, last⟩, chaining, ⟨⟩⟩ := bind_eq_ok.mp compiled
    obtain ⟨settled, same⟩ := loopForms_chainStatements rest
    rw [Tree.loops_tag numbered (by simp [Core.passive]), same]
    exact ⟨settled, chain noted chaining⟩

theorem switch_forms {children children' : List Tree} (numbered : s.registries.tags.get? id = some Core.switchTag)
    (shape : Parse.IsExpression s.registries value) (chain : FormsChain s children children') :
    FormsLoops s (.tag id (value :: children) line notes) (.tag id (value :: children') line notes') := by
  intro inLoop p p' code noted compiled
  rw [Tree.noted_tag_iff numbered (by simp [Core.passive]), Tree.NotedAll] at noted
  rw [statement, numbered] at compiled
  dsimp only [Core.switchTag] at compiled
  rw [switch] at compiled
  split at compiled
  · cases compiled
  · obtain ⟨e, -, compiled⟩ := bind_eq_ok.mp compiled
    obtain ⟨⟨rest, last⟩, chaining, ⟨⟩⟩ := bind_eq_ok.mp compiled
    obtain ⟨settled, same⟩ := loopForms_chainStatements rest
    have held : Settled [.hold p.nextLocal e] := .single rfl rfl
    refine ⟨held.append settled, ?_⟩
    rw [Tree.loops_tag numbered (by simp [Core.passive]), Tree.loopsAll, shape.loops, Outline.empty_append,
      Code.loopForms_quiet rfl rfl, same]
    exact (chain noted.2 chaining).congr rfl rfl

/-- The plan of a loop that is marked shares the scope of the loop around it, and that of no other does. -/
theorem loopPlan_sharesScope {notes : Annotations} {inLoop : Bool} {children : List Tree} {plan : LoopPlan}
    (marked : inLoop = true → notes.flag "reuse_context" false = true) (planned : loopPlan notes inLoop children line = .ok plan) :
    plan.sharesScope = inLoop := by
  rw [loopPlan] at planned
  split at planned
  · split at planned
    · cases planned
    · cases planned
      cases inLoop with
      | false => exact Bool.and_false _
      | true => exact (Bool.and_true _).trans (marked rfl)
  · cases planned

theorem LoopPlan.forms_statements {plan : LoopPlan} {l : LoopLocals} {iterable : Code.Expr} {inBody : Bool}
    {loops more : Outline Bool} {p middle p' : Progress} {body otherwise : List Stmt} (shares : plan.sharesScope = inBody)
    (settled : Settled body) (inside : Forms loops p middle (Stmt.loopForms none body))
    (other : Forms more middle p' (if plan.hasElse then Stmt.loopForms none otherwise else [])) :
    Forms (.single inBody ++ (loops ++ more)) p p' (Stmt.loopForms none (plan.statements l iterable body otherwise)) := by
  have first : Forms (.single inBody) p p [some (if plan.sharesScope then .checkpoint else .scope)] :=
    ⟨[], by simp, .single (by rw [shares]; rfl)⟩
  have forms := plan.loopForms_statements l iterable settled otherwise []
  rw [List.append_nil, Stmt.loopForms, List.append_nil] at forms
  rw [forms]
  exact first.append (inside.append other)

theorem loop_forms {content content' : Tree} (numbered : s.registries.tags.get? id = some Core.forTag)
    (body : FormsLoops s content content') :
    FormsLoops s (.tag id [value, content] line notes) (.tag id [value, content'] line notes') := by
  intro inLoop p p' code noted compiled
  rw [Tree.noted_loop_iff numbered] at noted
  obtain ⟨marked, inside, -⟩ := noted
  rw [statement, numbered] at compiled
  obtain ⟨plan, planned, compiled⟩ := bind_eq_ok.mp compiled
  have noElse : plan.hasElse = false := (loopPlan_counted planned).2
  have shares := loopPlan_sharesScope marked planned
  rw [loop] at compiled
  obtain ⟨e, -, compiled⟩ := bind_eq_ok.mp compiled
  obtain ⟨⟨inner, last⟩, compiling, ⟨⟩⟩ := bind_eq_ok.mp compiled
  obtain ⟨settled, formed⟩ := body inside compiling
  rw [Tree.loops_loop numbered]
  refine ⟨plan.settled_statements _ e settled _, LoopPlan.forms_statements shares settled (formed.congr rfl rfl) ?_⟩
  rw [noElse]
  exact .none rfl

theorem loopElse_forms {content content' other other' : Tree} (numbered : s.registries.tags.get? id = some Core.forTag)
    (body : FormsLoops s content content') (otherwise : FormsLoops s other other') :
    FormsLoops s (.tag id [value, content, other] line notes) (.tag id [value, content', other'] line notes') := by
  intro inLoop p p' code noted compiled
  rw [Tree.noted_loop_iff numbered] at noted
  obtain ⟨marked, inside, outside, -⟩ := noted
  rw [statement, numbered] at compiled
  obtain ⟨plan, planned, compiled⟩ := bind_eq_ok.mp compiled
  have hasElse : plan.hasElse = true := (loopPlan_counted planned).2
  have shares := loopPlan_sharesScope marked planned
  rw [loop] at compiled
  obtain ⟨e, -, compiled⟩ := bind_eq_ok.mp compiled
  obtain ⟨⟨inner, middle⟩, compiling, compiled⟩ := bind_eq_ok.mp compiled
  obtain ⟨⟨outer, last⟩, compilingLast, ⟨⟩⟩ := bind_eq_ok.mp compiled
  obtain ⟨settled, formed⟩ := body inside compiling
  obtain ⟨-, formedLast⟩ := otherwise outside compilingLast
  rw [Tree.loops_loop numbered]
  refine ⟨plan.settled_statements _ e settled _, LoopPlan.forms_statements shares settled (formed.congr rfl rfl) ?_⟩
  simpa [hasElse, Tree.loopsAll] using formedLast

theorem nested_forms {name : String} {content content' : Tree} (numbered : s.registries.tags.get? id = some Core.templateTag)
    (named : notes.text? "name" = some name) (alike : notes.Alike notes') (body : FormsLoops s content content') :
    FormsLoops s (.tag id [content] line notes) (.tag id [content'] line notes') := by
  intro inLoop p p' code noted compiled
  rw [Tree.noted_nested_iff numbered, Tree.NotedAll] at noted
  rw [statement, numbered] at compiled
  dsimp only [Core.templateTag] at compiled
  rw [alike.text? (by decide), named, nested] at compiled
  obtain ⟨begun, beginning, compiled⟩ := bind_eq_ok.mp compiled
  obtain ⟨⟨inner, last⟩, compiling, ⟨⟩⟩ := bind_eq_ok.mp compiled
  obtain ⟨-, units, finished, same⟩ := body noted.1 compiling
  refine ⟨.nil, units ++ [⟨name, Code.nestedTypeName name, inner⟩], ?_, ?_⟩
  · rw [endNested, finished, beginNested_finished beginning, List.append_assoc]
  · rw [Tree.loops_nested numbered named]
    simpa [Outline.nested, Stmt.loopForms] using same.nested name

theorem statements_form {trees annotated : List Tree} (each : List.Forall₂ (FormsLoops s) trees annotated)
    {inLoop : Bool} {p p' : Progress} {code : List Stmt} (noted : Tree.NotedAll s.registries inLoop annotated)
    (compiled : statements s inLoop p annotated = .ok (code, p')) :
    Settled code ∧ Forms (Tree.loopsAll s.registries inLoop trees) p p' (Stmt.loopForms none code) := by
  induction each generalizing p code with
  | nil =>
      cases compiled
      exact ⟨.nil, .none rfl⟩
  | cons first _ ih =>
      obtain ⟨here, later⟩ := noted
      rw [statements] at compiled
      obtain ⟨⟨one, middle⟩, compiling, compiled⟩ := bind_eq_ok.mp compiled
      obtain ⟨⟨rest, last⟩, onward, ⟨⟩⟩ := bind_eq_ok.mp compiled
      obtain ⟨settled, formed⟩ := first here compiling
      obtain ⟨settledRest, formedRest⟩ := ih later onward
      refine ⟨settled.append settledRest, ?_⟩
      rw [Tree.loopsAll, settled]
      exact formed.append formedRest

theorem block_forms {children children' : List Tree} (each : List.Forall₂ (FormsLoops s) children children') :
    FormsLoops s (.block children line notes) (.block children' line notes') := by
  intro inLoop p p' code noted compiled
  rw [statement] at compiled
  rw [Tree.loops]
  exact statements_form each noted compiled

theorem otherwise_forms {content content' : Tree} (body : FormsLoops s content content') : FormsChain s [content] [content'] := by
  intro inLoop test p p' chain noted compiled
  rw [branches] at compiled
  obtain ⟨⟨inner, last⟩, compiling, ⟨⟩⟩ := bind_eq_ok.mp compiled
  simpa [Tree.loopsAll, Code.Chain.loopForms] using (body noted.1 compiling).2

theorem orElse_forms {content content' : Tree} {later later' : List Tree} (shape : Parse.IsExpression s.registries value)
    (body : FormsLoops s content content') (rest : FormsChain s later later') :
    FormsChain s (value :: content :: later) (value :: content' :: later') := by
  intro inLoop test p p' chain noted compiled
  obtain ⟨-, here, further⟩ := noted
  rw [branches] at compiled
  obtain ⟨e, -, compiled⟩ := bind_eq_ok.mp compiled
  obtain ⟨⟨inner, middle⟩, compiling, compiled⟩ := bind_eq_ok.mp compiled
  obtain ⟨⟨chain, last⟩, chaining, ⟨⟩⟩ := bind_eq_ok.mp compiled
  rw [Tree.loopsAll, Tree.loopsAll, shape.loops, Outline.empty_append, Code.Chain.loopForms]
  exact (body here compiling).2.append (rest further chaining)

end

theorem forms_cases (s : Setting) : Parse.RemarkedCases s.registries (FormsLoops s) (FormsChain s) where
  text := text_forms
  print numbered isOutput shape alike _ := print_forms numbered isOutput shape alike
  inclusion := inclusion_forms
  assignment := assignment_forms
  conditional := conditional_forms
  switch := switch_forms
  loop numbered _ _ body := loop_forms numbered body
  loopElse numbered _ _ body otherwise := loopElse_forms numbered body otherwise
  nested := nested_forms
  block := block_forms
  done := by
    intro inLoop test p p' chain _ compiled
    cases compiled
    exact .none rfl
  otherwise := otherwise_forms
  orElse := orElse_forms

theorem template_forms {s : Setting} {tree annotated : Tree} {unit : Code.Module} (shape : Parse.IsTemplate s.registries tree)
    (same : Remarked s.registries tree annotated) (noted : annotated.Noted s.registries false)
    (compiled : template s (some annotated) = .ok unit) :
    (tree.loops s.registries false).Matches HasForm unit.loopForms := by
  obtain ⟨shapes⟩ := shape
  obtain ⟨children⟩ := same
  obtain ⟨⟨body, p⟩, compiling, ⟨⟩⟩ := bind_eq_ok.mp compiled
  rw [statement] at compiling
  obtain ⟨-, units, finished, formed⟩ := statements_form ((forms_cases s).statements shapes children) noted compiling
  have all : p.finished = units := finished
  rw [Tree.loops, Code.Module.loopForms, all]
  exact formed

end Compile

namespace Compiler

variable {config : Config} {loader : Loader} {extensions : List Extension} {c : Compiler}

/-- In the code of a source that is compiled with the core tags and the default passes, every path through a template opens
and closes scopes in a properly nested way, and every run that ends takes such a path. A loop sets a checkpoint if it lies in
the body of another loop of its template, and opens a scope of its own otherwise. -/
theorem compileModule_scopes (built : Compiler.build config loader extensions = .ok c)
    (functions : ∀ extension ∈ extensions, extension.tags = []) {name source : String} {unit : Code.Module}
    (compiled : c.compileModule name source = .ok unit) :
    (∀ template ∈ unit.templates, (∀ ops, Code.Path template.body ops → Code.Nested ops) ∧
      ∀ env includer m m', Code.Steady includer → Code.execAll env includer m template.body = .ok m' →
        Code.Takes template.body m m') ∧
      ∃ tokens tree, Source.tokenize c.vocabulary source = .ok tokens ∧
        Parse.template ⟨c.registries, c.config.fallbackTag⟩ tokens = .ok tree ∧
        (tree.loops c.registries false).Matches Compile.HasForm unit.loopForms := by
  obtain ⟨tokens, tree, lexed, parsed, generated⟩ := parsed_of_compileModule compiled
  obtain ⟨-, passes, registered⟩ := of_build built
  have core : c.registries.tags.IsCore := TagRegistry.isCore_of_build registered functions
  obtain ⟨annotated, restored, same, shape, -⟩ := optimize_ofTree_of_core core (Registries.ownsAliases_operators registered)
    (passes ▸ Optimizer.isDefault_standard) parsed
  have noted : annotated.Noted c.registries false := by
    rw [optimize, passes] at restored
    exact Optimizer.noted_standard registered functions shape.sound restored
  rw [restored] at generated
  refine ⟨fun template member => ⟨?_, fun _ _ _ _ => Code.execAll_takes⟩, tokens, tree, lexed, parsed,
    Compile.template_forms shape same noted generated⟩
  obtain ⟨⟨body, p⟩, compiling, ⟨⟩⟩ := bind_eq_ok.mp generated
  obtain ⟨steps, realizes⟩ := Compile.statement_isProgram (Compile.coreForms_of_isCore core) compiling
  obtain ⟨units, finished, bodies, -⟩ := realizes.units
  suffices keeps : ∃ low, Compile.KeepsScopes low template.body from
    fun ops path => (keeps.choose_spec ops path).1
  rcases List.mem_cons.mp member with rfl | nested
  · have keeps := Compile.Step.codeAll_keepsScopes steps 0
    rw [realizes.code] at keeps
    exact ⟨0, keeps⟩
  · have all : p.finished = units := finished
    obtain ⟨first, inner, code⟩ := Compile.exists_of_mem_finished bodies (all ▸ nested)
    rw [code]
    exact ⟨first, Compile.Step.codeAll_keepsScopes inner first⟩

/-- A loop in a loop, one in a template that is nested there, and one where the outer loop has no entries. -/
def nestedLoops : String :=
  "\x7b% for a in x %\x7d\x7b% for b in a %\x7d\x7b% endfor %\x7d\x7b% template t %\x7d\x7b% for d in x %\x7d\x7b% endfor %\x7d" ++
    "\x7b% endtemplate %\x7d\x7b% else %\x7d\x7b% for e in x %\x7d\x7b% endfor %\x7d\x7b% endfor %\x7d"

theorem nestedLoops_scopes :
    ∃ c unit tokens tree, Compiler.build {} (.ofList []) [] = .ok c ∧ c.compileModule "page" nestedLoops = .ok unit ∧
      (∀ template ∈ unit.templates, ∀ ops, Code.Path template.body ops → Code.Nested ops) ∧
      unit.loopForms = ⟨[some .scope, some .checkpoint, some .scope], [("t", [some .scope])]⟩ ∧
      Parse.template ⟨c.registries, none⟩ tokens = .ok tree ∧
      (tree.loops c.registries false).Matches Compile.HasForm unit.loopForms := by
  have outcome : (do
      let c ← (Compiler.build {} (.ofList []) []).toOption
      let unit ← (c.compileModule "page" nestedLoops).toOption
      return (c.config.fallbackTag, unit.loopForms)) =
        some (none, ⟨[some .scope, some .checkpoint, some .scope], [("t", [some .scope])]⟩) := by
    have letters : nestedLoops.toList = _ :=
      String.toList_append.trans (congrArg₂ (· ++ ·) String.toList_ofList String.toList_ofList)
    rw [build_default]
    simp only [compileModule_letters letters]
    decide +kernel
  obtain ⟨c, built, outcome⟩ := Option.bind_eq_some_iff.mp outcome
  obtain ⟨unit, compiled, outcome⟩ := Option.bind_eq_some_iff.mp outcome
  rw [toOption_eq_some] at built compiled
  obtain ⟨fallback, forms⟩ := Prod.mk.inj (Option.some.inj outcome)
  obtain ⟨paths, tokens, tree, -, parsed, formed⟩ := compileModule_scopes built (List.forall_mem_nil _) compiled
  exact ⟨c, unit, tokens, tree, built, compiled, fun template member => (paths template member).1, forms, fallback ▸ parsed, formed⟩

end Compiler

end Templating
