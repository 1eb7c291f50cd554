import Templating.Proofs.CoreExtension
import Templating.Proofs.CoreProgram
import Templating.Proofs.LineWriting

/-! # The layout of compiled templates

The lines of a compiled template stand in blocks. A line that ends with an opening brace opens a block, a line that starts
with a closing brace closes the innermost one, and both stand at the same level. `Layout` checks this step by step; the
code of a program passes the check from any place on and leaves it where it found it.
-/

namespace Templating.Code

/-- A line opens a block. -/
def opensBlock (text : String) : Bool :=
  text.toList.getLast? == some '\x7b'

/-- A line closes a block. -/
def closesBlock (text : String) : Bool :=
  text.toList.head? == some '\x7d'

/-- The level of the next line, and the levels of the lines that opened the blocks around it, the innermost first. -/
structure Layout where
  level : Nat := 0
  blocks : List Nat := []
deriving DecidableEq

namespace Layout

/-- A line closes a block only at the level at which that block, the innermost one, was opened. -/
def close (layout : Layout) : Option Layout :=
  match layout.blocks with
  | [] => none
  | level :: outer => if level = layout.level then some { layout with blocks := outer } else none

/-- The layout behind a line, once what the line closes is closed. -/
def behind (layout : Layout) (text : String) : Layout :=
  if opensBlock text then { layout with blocks := layout.level :: layout.blocks } else layout

/-- Takes a step. The outermost level is not left. -/
def step (layout : Layout) : Edit → Option Layout
  | .line text => (if closesBlock text then layout.close else some layout).map (·.behind text)
  | .blank => some layout
  | .raw _ => some layout
  | .indent => some { layout with level := layout.level + 1 }
  | .outdent => if layout.level = 0 then none else some { layout with level := layout.level - 1 }

/-- Takes steps in order. -/
def run (layout : Layout) (edits : List Edit) : Option Layout :=
  edits.foldlM step layout

/-- A block is closed at its own level, and not before the blocks inside it. -/
example : run {} [.line "if a \x7b", .indent, .line "\x7d"] = none := by decide
example : run {} [.line "\x7b", .indent, .line "\x7b", .outdent, .line "\x7d"] = none := by decide

theorem run_append (layout : Layout) (first second : List Edit) :
    layout.run (first ++ second) = (layout.run first).bind (·.run second) :=
  List.foldlM_append

theorem run_cons (layout : Layout) (edit : Edit) (edits : List Edit) :
    layout.run (edit :: edits) = (layout.step edit).bind (·.run edits) :=
  List.foldlM_cons

@[simp] theorem run_nil (layout : Layout) : layout.run [] = some layout :=
  rfl

@[simp] theorem run_indent (layout : Layout) (edits : List Edit) :
    layout.run (.indent :: edits) = run { layout with level := layout.level + 1 } edits :=
  rfl

@[simp] theorem run_outdent (level : Nat) (blocks : List Nat) (edits : List Edit) :
    run ⟨level + 1, blocks⟩ (.outdent :: edits) = run ⟨level, blocks⟩ edits :=
  rfl

section

variable {text : String}

theorem run_plain (layout : Layout) (edits : List Edit) (closes : closesBlock text = false) (opens : opensBlock text = false) :
    layout.run (.line text :: edits) = layout.run edits := by
  simp [run_cons, step, behind, closes, opens]

theorem run_opening (layout : Layout) (edits : List Edit) (closes : closesBlock text = false) (opens : opensBlock text = true) :
    layout.run (.line text :: edits) = run { layout with blocks := layout.level :: layout.blocks } edits := by
  simp [run_cons, step, behind, closes, opens]

theorem run_closing (level : Nat) (blocks : List Nat) (edits : List Edit) (closes : closesBlock text = true)
    (opens : opensBlock text = false) : run ⟨level, level :: blocks⟩ (.line text :: edits) = run ⟨level, blocks⟩ edits := by
  simp [run_cons, step, close, behind, closes, opens]

theorem run_dividing (level : Nat) (blocks : List Nat) (edits : List Edit) (closes : closesBlock text = true)
    (opens : opensBlock text = true) :
    run ⟨level, level :: blocks⟩ (.line text :: edits) = run ⟨level, level :: blocks⟩ edits := by
  simp [run_cons, step, close, behind, closes, opens]

end

theorem level_line {layout later : Layout} {text : String} (taken : layout.step (.line text) = some later) :
    later.level = layout.level := by
  obtain ⟨closed, closing, rfl⟩ := Option.map_eq_some_iff.mp taken
  have same : closed.level = layout.level := by
    simp only [close] at closing
    grind
  rw [← same, behind]
  split <;> rfl

theorem level_applyAll {layout later : Layout} {edits : List Edit} (passes : layout.run edits = some later) (base : Nat)
    {buffer : Buffer} (start : buffer.level = base + layout.level) :
    (buffer.applyAll edits).level = base + later.level := by
  induction edits generalizing layout buffer with
  | nil =>
      cases passes
      exact start
  | cons edit edits ih =>
      rw [run_cons] at passes
      obtain ⟨middle, taken, rest⟩ := Option.bind_eq_some_iff.mp passes
      apply ih rest
      cases edit with
      | line text =>
          rw [level_line taken]
          exact start
      | blank | raw =>
          cases taken
          exact start
      | indent =>
          cases taken
          exact congrArg (· + 1) start
      | outdent =>
          simp only [step] at taken
          split at taken
          · cases taken
          · cases taken
            show buffer.level - 1 = base + (layout.level - 1)
            omega

end Layout

/-- Steps that leave a buffer at the level where they found it, never go out beyond it, and close the blocks that they open,
the innermost first and each at its own level. -/
structure WellLaid (edits : List Edit) : Prop where
  level : ∀ buffer : Buffer, (buffer.applyAll edits).level = buffer.level
  above : ∀ (buffer : Buffer) (front : List Edit), front <+: edits → buffer.level ≤ (buffer.applyAll front).level
  outdents : ∀ (buffer : Buffer) (front : List Edit), front ++ [.outdent] <+: edits →
    0 < (buffer.applyAll front).level ∧ buffer.level < (buffer.applyAll front).level
  blocks : ∀ layout : Layout, layout.run edits = some layout

theorem wellLaid_of_run {edits : List Edit} (passes : ∀ layout : Layout, layout.run edits = some layout) : WellLaid edits where
  level buffer := Layout.level_applyAll (passes {}) buffer.level rfl
  above buffer front isFront := by
    obtain ⟨rest, rfl⟩ := isFront
    have whole := passes {}
    rw [Layout.run_append] at whole
    obtain ⟨middle, reached, -⟩ := Option.bind_eq_some_iff.mp whole
    rw [Layout.level_applyAll reached buffer.level rfl]
    exact Nat.le_add_right _ _
  outdents buffer front isFront := by
    obtain ⟨rest, rfl⟩ := isFront
    have whole := passes {}
    rw [List.append_assoc, Layout.run_append] at whole
    obtain ⟨middle, reached, onward⟩ := Option.bind_eq_some_iff.mp whole
    rw [List.singleton_append, Layout.run_cons] at onward
    obtain ⟨outer, taken, -⟩ := Option.bind_eq_some_iff.mp onward
    have inside : 0 < middle.level := by
      simp only [Layout.step] at taken
      split at taken
      · cases taken
      · omega
    rw [Layout.level_applyAll reached buffer.level rfl]
    omega
  blocks := passes

end Templating.Code

namespace Templating.Compile

open Code (Layout)

/-- Statements pass the check from any place on and leave it there. -/
def KeepsLayout (code : List Code.Stmt) : Prop :=
  ∀ layout : Layout, layout.run (Code.Stmt.allEdits code) = some layout

/-- The rest of a chain closes the block of the branch before it. -/
def ClosesLayout (chain : Code.Chain) : Prop :=
  ∀ level blocks, Layout.run ⟨level + 1, level :: blocks⟩ chain.edits = some ⟨level, blocks⟩

theorem edits_single (statement : Code.Stmt) : Code.Stmt.allEdits [statement] = statement.edits := by
  simp [Code.Stmt.allEdits]

namespace KeepsLayout

variable {first rest body : List Code.Stmt} {statement : Code.Stmt} {text : String}

theorem nil : KeepsLayout [] :=
  fun _ => rfl

theorem append (one : KeepsLayout first) (other : KeepsLayout rest) : KeepsLayout (first ++ rest) := by
  intro layout
  rw [allEdits_append, Layout.run_append, one layout]
  exact other layout

theorem cons (one : KeepsLayout [statement]) (other : KeepsLayout rest) : KeepsLayout (statement :: rest) :=
  one.append other

theorem line (written : statement.edits = [.line text]) (closes : Code.closesBlock text = false)
    (opens : Code.opensBlock text = false) : KeepsLayout [statement] := by
  intro layout
  rw [edits_single, written, Layout.run_plain layout [] closes opens]
  rfl

theorem braced {head : String} (written : statement.edits = Code.braced head (Code.Stmt.allEdits body))
    (closes : Code.closesBlock (head ++ "\x7b") = false) (inside : KeepsLayout body) : KeepsLayout [statement] := by
  intro layout
  have opens : Code.opensBlock (head ++ "\x7b") = true := by simp [Code.opensBlock]
  rw [edits_single, written, Code.braced, List.cons_append, List.cons_append, Layout.run_opening layout _ closes opens,
    Layout.run_indent, Layout.run_append, inside]
  exact Layout.run_closing layout.level layout.blocks [] (by decide) (by decide)

end KeepsLayout

theorem opensBlock_append {front back : String} (some_char : back ≠ "") :
    Code.opensBlock (front ++ back) = Code.opensBlock back := by
  rw [Code.opensBlock, Code.opensBlock, String.toList_append,
    List.getLast?_append_of_ne_nil _ (by simpa using some_char)]

section

variable (target source index length : Nat) (name : String) (value : Code.Expr)

theorem writeText_keepsLayout (text : String) : KeepsLayout [.writeText text] :=
  .line rfl (by simp [Code.closesBlock]) (opensBlock_append (by decide))

theorem output_keepsLayout (safe : Bool) : KeepsLayout [if safe then .writeValue value else .writeEscaped value] := by
  cases safe
  · exact .line rfl (by simp [Code.closesBlock]) (opensBlock_append (by decide))
  · exact .line rfl (by simp [Code.closesBlock]) (opensBlock_append (by decide))

theorem binding_plain (content : String) :
    Code.closesBlock ("let " ++ Code.localName target ++ " = " ++ content ++ ";") = false ∧
      Code.opensBlock ("let " ++ Code.localName target ++ " = " ++ content ++ ";") = false :=
  ⟨by simp [Code.closesBlock], opensBlock_append (by decide)⟩

theorem assignment_plain (content : String) :
    Code.closesBlock ("__ctx.set(" ++ Text.quote name ++ ", " ++ content ++ ");") = false ∧
      Code.opensBlock ("__ctx.set(" ++ Text.quote name ++ ", " ++ content ++ ");") = false :=
  ⟨by simp [Code.closesBlock], opensBlock_append (by decide)⟩

theorem hold_keepsLayout : KeepsLayout [.hold target value] :=
  .line rfl (binding_plain ..).1 (binding_plain ..).2

theorem assign_keepsLayout : KeepsLayout [.assign name source] :=
  .line rfl (assignment_plain ..).1 (assignment_plain ..).2

theorem inclusion_keepsLayout : KeepsLayout [.include source] :=
  .line rfl (by simp [Code.closesBlock]) (opensBlock_append (by decide))

theorem advance_keepsLayout : KeepsLayout [.advance source] :=
  .line rfl (by simp [Code.closesBlock, Code.localName]) (opensBlock_append (by decide))

end

namespace LoopPlan

variable (plan : LoopPlan) (l : LoopLocals)

theorem opening_keepsLayout : KeepsLayout [plan.opening l] := by
  unfold opening
  split
  · exact .line rfl (binding_plain ..).1 (binding_plain ..).2
  · exact .line rfl (by decide) (by decide)

theorem closing_keepsLayout : KeepsLayout [plan.closing l] := by
  unfold closing
  split
  · exact .line rfl (by simp [Code.closesBlock]) (opensBlock_append (by decide))
  · exact .line rfl (by decide) (by decide)

theorem bindings_keepLayout : KeepsLayout (plan.bindings l) := by
  refine .append ?_ (assign_keepsLayout l.value plan.valueVariable)
  cases plan.keyVariable with
  | none => exact .nil
  | some key => exact assign_keepsLayout l.key key

theorem binding_keepsLayout (statement : Code.Stmt) {target : Nat} {content : String}
    (written : statement.edits = [Code.binding target content]) : KeepsLayout [statement] :=
  .line written (binding_plain target content).1 (binding_plain target content).2

theorem repetition_keepsLayout {body : List Code.Stmt} (inside : KeepsLayout body) :
    KeepsLayout (plan.repetition l body) := by
  unfold repetition
  split
  · refine .cons (.line rfl (by simp [Code.closesBlock]) (opensBlock_append (by decide)))
      (.braced rfl (by simp [Code.closesBlock]) ?_)
    refine .append ((plan.bindings_keepLayout l).append (.cons ?_ inside)) (advance_keepsLayout l.state)
    exact .line rfl (assignment_plain ..).1 (assignment_plain ..).2
  · refine .cons (binding_keepsLayout _ rfl) (.braced rfl (by simp [Code.closesBlock]) ?_)
    refine (plan.bindings_keepLayout l).append (.cons ?_ inside)
    exact .line rfl (assignment_plain ..).1 (assignment_plain ..).2

theorem statements_keepsLayout (iterable : Code.Expr) {body otherwise : List Code.Stmt} (inside : KeepsLayout body)
    (other : KeepsLayout otherwise) : KeepsLayout (plan.statements l iterable body otherwise) := by
  have emptiness : KeepsLayout (if plan.hasElse then [.holdEmptiness l.empty l.entries] else []) := by
    split
    · exact binding_keepsLayout _ rfl
    · exact .nil
  have last : KeepsLayout (if plan.hasElse then [.whenSet l.empty otherwise] else []) := by
    split
    · exact .braced rfl (by simp [Code.closesBlock]) other
    · exact .nil
  have opened := (plan.opening_keepsLayout l).append (binding_keepsLayout (.holdEntries l.entries iterable) rfl)
  exact (((opened.append emptiness).append (plan.repetition_keepsLayout l inside)).append
    (plan.closing_keepsLayout l)).append last

end LoopPlan

mutual

theorem Step.code_keepsLayout (step : Step) (next : Nat) : KeepsLayout (step.code next).1 := by
  cases step with
  | text text => exact writeText_keepsLayout text
  | output safe value => exact output_keepsLayout value safe
  | assign name value => exact (hold_keepsLayout next value).append (assign_keepsLayout next name)
  | inclusion value => exact (hold_keepsLayout next value).append (inclusion_keepsLayout next)
  | choose branches => exact branches.chain_keepsLayout .holds next
  | switch subject branches =>
      exact (hold_keepsLayout next subject).cons (branches.chain_keepsLayout (.equals next) (next + 1))
  | loop plan iterable body otherwise =>
      refine plan.statements_keepsLayout (plan.locals next) iterable (Step.codeAll_keepsLayout body _) ?_
      split
      · exact Step.codeAll_keepsLayout otherwise _
      · exact .nil
  | nested body => exact .nil

theorem Step.codeAll_keepsLayout (steps : List Step) (next : Nat) : KeepsLayout (Step.codeAll next steps).1 := by
  cases steps with
  | nil => exact .nil
  | cons step steps => exact (step.code_keepsLayout next).append (Step.codeAll_keepsLayout steps _)

theorem Branches.code_closesLayout (branches : Branches) (test : Code.Expr → Code.Test) (next : Nat) :
    ClosesLayout (branches.code test next).1 := by
  cases branches with
  | done =>
      intro level blocks
      exact Layout.run_closing level blocks [] (by decide) (by decide)
  | otherwise body =>
      intro level blocks
      have inside := Step.codeAll_keepsLayout body next
      simp only [Branches.code, Code.Chain.edits, List.cons_append, Layout.run_outdent]
      rw [Layout.run_dividing level blocks _ (by decide) (by decide), Layout.run_indent, Layout.run_append, inside]
      exact Layout.run_closing level blocks [] (by decide) (by decide)
  | orElse value body rest =>
      intro level blocks
      have inside := Step.codeAll_keepsLayout body next
      simp only [Branches.code, Code.Chain.edits, List.cons_append, Layout.run_outdent]
      rw [Layout.run_dividing level blocks _ (by simp [Code.closesBlock]) (opensBlock_append (by decide)), Layout.run_indent,
        Layout.run_append, inside]
      exact rest.code_closesLayout test _ level blocks

theorem Branches.chain_keepsLayout (branches : Branches) (test : Code.Expr → Code.Test) (next : Nat) :
    KeepsLayout (chainStatements (branches.code test next).1) := by
  cases branches with
  | done => exact .nil
  | otherwise body => exact .braced rfl (by decide) (Step.codeAll_keepsLayout body next)
  | orElse value body rest =>
      intro layout
      have inside := Step.codeAll_keepsLayout body next
      simp only [Branches.code, chainStatements, edits_single, Code.Stmt.edits, List.cons_append]
      rw [Layout.run_opening layout _ (by simp [Code.closesBlock]) (opensBlock_append (by decide)), Layout.run_indent,
        Layout.run_append, inside]
      exact rest.code_closesLayout test _ layout.level layout.blocks

end

section

variable {s : Setting} {extensions : List Extension} {p p' : Progress} {tree : Tree}

theorem statement_keepsLayout (built : Registries.build extensions = .ok s.registries)
    (core : ∀ extension ∈ extensions, ∀ tag ∈ extension.tags, tag ∈ Core.tags) {inLoop : Bool} {code : List Code.Stmt}
    (compiled : statement s inLoop p tree = .ok (code, p')) :
    KeepsLayout code ∧ ∃ units, p'.finished = p.finished ++ units ∧ ∀ unit ∈ units, KeepsLayout unit.body := by
  obtain ⟨steps, realizes⟩ := statement_isProgram (coreForms_of_isCore (TagRegistry.isCore_of_tags built core)) compiled
  obtain ⟨units, finished, bodies, -⟩ := realizes.units
  have own := Step.codeAll_keepsLayout steps p.nextLocal
  rw [realizes.code] at own
  refine ⟨own, units, finished, fun unit member => ?_⟩
  obtain ⟨first, inner, same⟩ := exists_of_mem_finished bodies member
  rw [same]
  exact Step.codeAll_keepsLayout inner first

/-- Every node that compiles with core tags gives well-laid statements, whatever tree it stands in; so are the statements of
the templates that are finished on the way. -/
theorem statement_wellLaid (built : Registries.build extensions = .ok s.registries)
    (core : ∀ extension ∈ extensions, ∀ tag ∈ extension.tags, tag ∈ Core.tags) {inLoop : Bool} {code : List Code.Stmt}
    (compiled : statement s inLoop p tree = .ok (code, p')) :
    Code.WellLaid (Code.Stmt.allEdits code) ∧
      ∃ units, p'.finished = p.finished ++ units ∧ ∀ unit ∈ units, Code.WellLaid (Code.Stmt.allEdits unit.body) := by
  obtain ⟨own, units, finished, inside⟩ := statement_keepsLayout built core compiled
  exact ⟨Code.wellLaid_of_run own, units, finished, fun unit member => Code.wellLaid_of_run (inside unit member)⟩

/-- Written line by line, a node adds well-laid lines to the template that is open, and the templates that it finishes are
well laid from their first line to their last. -/
theorem write_wellLaid (built : Registries.build extensions = .ok s.registries)
    (core : ∀ extension ∈ extensions, ∀ tag ∈ extension.tags, tag ∈ Core.tags) {w w' : Workbench}
    (written : write s w tree = .ok w') :
    (∃ edits, Code.WellLaid edits ∧ w'.current = w.current.put edits) ∧
      ∃ units, w'.finished = w.finished ++ units ∧ ∀ unit ∈ units, ∃ edits, Code.WellLaid edits ∧
        unit.buffer = Code.Buffer.applyAll { level := Code.bodyLevel } edits := by
  obtain ⟨⟨code, p'⟩, compiled, rfl⟩ := exists_of_write written
  obtain ⟨own, units, finished, inside⟩ := statement_keepsLayout built core compiled
  refine ⟨⟨_, Code.wellLaid_of_run own, rfl⟩, units.map OpenUnit.ofTemplate, ?_, fun unit member => ?_⟩
  · simp [OpenUnit.behind, OpenUnit.bench, finished]
  · obtain ⟨template, among, rfl⟩ := List.mem_map.mp member
    exact ⟨_, Code.wellLaid_of_run (inside template among), rfl⟩

end

/-- A loop around a condition around a choice that has nothing but a default; the text of the default is also what the loop
does without entries. -/
def sharedArena : Arena where
  nodes := #[⟨.data (.bool true), 1, {}⟩, ⟨.variable "x", 1, {}⟩, ⟨.data (.string "\x7d"), 1, {}⟩,
    ⟨.tag 0 [⟨2⟩], 1, Annotations.set {} "text" (.bool true)⟩, ⟨.block [⟨3⟩], 1, {}⟩,
    ⟨.tag 3 [⟨1⟩, ⟨4⟩], 1, Annotations.set {} "has_default" (.bool true)⟩, ⟨.block [⟨5⟩], 1, {}⟩, ⟨.tag 1 [⟨0⟩, ⟨6⟩], 1, {}⟩,
    ⟨.block [⟨7⟩], 1, {}⟩, ⟨.tag 2 [⟨1⟩, ⟨8⟩, ⟨4⟩], 1, Annotations.set {} "value_var" (.text "v")⟩]
  root := some ⟨9⟩

theorem sharedArena_wellLaid :
    ∃ r code p', Registries.build [Core.extension] = .ok r ∧
      statement ⟨r, "shared"⟩ false {} (sharedArena.treeAt 10 ⟨9⟩) = .ok (code, p') ∧
      (Code.Stmt.allEdits code).count .outdent = 4 ∧ Code.WellLaid (Code.Stmt.allEdits code) := by
  have outcome : (do
      let r ← (Registries.build [Core.extension]).toOption
      let compiled ← (statement ⟨r, "shared"⟩ false {} (sharedArena.treeAt 10 ⟨9⟩)).toOption
      return (Code.Stmt.allEdits compiled.1).count .outdent) = some 4 := by
    rw [Registries.build_core]
    decide +kernel
  obtain ⟨r, built, outcome⟩ := Option.bind_eq_some_iff.mp outcome
  obtain ⟨⟨code, p'⟩, compiled, outdents⟩ := Option.bind_eq_some_iff.mp outcome
  rw [toOption_eq_some] at built compiled
  have core : ∀ extension ∈ [Core.extension], ∀ tag ∈ extension.tags, tag ∈ Core.tags := by simp [Core.extension]
  exact ⟨r, code, p', built, compiled, Option.some.inj outdents,
    (statement_wellLaid (s := ⟨r, "shared"⟩) built core compiled).1⟩

end Templating.Compile
