import Templating.Compiler.Basic
import Templating.Proofs.Outcome

/-! # The text that is written line by line

A module is written in one go over its tree, and what is compiled statement by statement and printed afterwards is the same
text. No loop is closed that is not open, no nested template ends outside of one, and a loop that keeps whether there are
entries has a branch for none: what each of these needs was put there by the statement itself.
-/

namespace Templating.Compile

open Code (Buffer Edit Stmt Chain Test)

theorem allEdits_append (first rest : List Code.Stmt) :
    Code.Stmt.allEdits (first ++ rest) = Code.Stmt.allEdits first ++ Code.Stmt.allEdits rest := by
  induction first with
  | nil => rfl
  | cons statement first ih => simp [Code.Stmt.allEdits, ih]

/-- A template that has been written from its first line to its last. -/
def OpenUnit.ofTemplate (template : Code.Template) : OpenUnit :=
  OpenUnit.put { name := template.name, typeName := template.typeName } (Stmt.allEdits template.body)

/-- A module that is as far as a progress says, with templates that ended before. -/
def OpenUnit.bench (u : OpenUnit) (suspended older : List OpenUnit) (p : Progress) : Workbench where
  current := u
  suspended := suspended
  finished := older ++ p.finished.map OpenUnit.ofTemplate
  typeNames := p.typeNames
  nextLocal := p.nextLocal

/-- A template behind compiled statements. -/
def OpenUnit.behind (u : OpenUnit) (suspended older : List OpenUnit) (compiled : List Stmt × Progress) : Workbench :=
  (u.put (Stmt.allEdits compiled.1)).bench suspended older compiled.2

/-- The lines of a chain of branches up to the line that closes it; `opened` says whether there is a branch before it. -/
def chainFront (opened : Bool) : Chain → List Edit
  | .done => []
  | .otherwise body => otherwiseHead opened ++ Stmt.allEdits body
  | .orElse test body rest => branchHead opened test ++ (Stmt.allEdits body ++ chainFront true rest)

/-- A template behind a compiled chain of branches that is not closed. -/
def OpenUnit.behindChain (u : OpenUnit) (suspended older : List OpenUnit) (opened : Bool) (compiled : Chain × Progress) :
    Workbench :=
  (u.put (chainFront opened compiled.1)).bench suspended older compiled.2

section

variable {u : OpenUnit} {suspended older : List OpenUnit} {p : Progress} {s : Setting}

@[simp] theorem OpenUnit.put_put (u : OpenUnit) (first second : List Edit) :
    (u.put first).put second = u.put (first ++ second) := by
  simp [OpenUnit.put, Buffer.applyAll]

@[simp] theorem OpenUnit.loops_put (u : OpenUnit) (edits : List Edit) : (u.put edits).loops = u.loops :=
  rfl

@[simp] theorem bench_put (edits : List Edit) :
    (u.bench suspended older p).put edits = (u.put edits).bench suspended older p :=
  rfl

theorem bench_openLoop (plan : LoopPlan) (iterable : Code.Expr) :
    (u.bench suspended older p).openLoop plan iterable =
      OpenUnit.bench { u.put (plan.front (plan.locals p.nextLocal) iterable) with
        loops := plan.frame (plan.locals p.nextLocal) :: u.loops } suspended older
        { p with nextLocal := (plan.locals p.nextLocal).behind } :=
  rfl

/-- Whatever has ended on a workbench can count as older, so that it stands where its own names and numbers say. -/
theorem Workbench.bench_self (w : Workbench) :
    w.current.bench w.suspended w.finished { nextLocal := w.nextLocal, typeNames := w.typeNames } = w := by
  simp [OpenUnit.bench]

theorem beginUnit_bench (name : String) (line : Nat) :
    (u.bench suspended older p).beginUnit s name line = (beginNested s name line p).map
      (OpenUnit.bench { name := name, typeName := Code.nestedTypeName name } (u :: suspended) older) := by
  unfold Workbench.beginUnit beginNested
  by_cases taken : name = s.mainName ∨ p.typeNames.lookup (Code.nestedTypeName name) = some name
  · rw [if_pos taken]
    exact if_pos taken
  · rw [if_neg taken]
    apply (if_neg taken).trans
    simp only [OpenUnit.bench]
    cases p.typeNames.lookup (Code.nestedTypeName name) with
    | none => rfl
    | some other => rfl

theorem endUnit_behind {name : String} (body : List Stmt) (line : Nat) :
    (OpenUnit.behind { name := name, typeName := Code.nestedTypeName name } (u :: suspended) older (body, p)).endUnit line =
      .ok (u.bench suspended older (endNested name body p)) := by
  simp [OpenUnit.behind, OpenUnit.bench, Workbench.endUnit, endNested, OpenUnit.ofTemplate]

/-- The lines of a loop are those in front of its body, those of the body and what the loop left for behind it. -/
theorem LoopPlan.edits_statements (plan : LoopPlan) (l : LoopLocals) (iterable : Code.Expr) (body otherwise : List Stmt) :
    Stmt.allEdits (plan.statements l iterable body otherwise) =
      plan.front l iterable ++ Stmt.allEdits body ++ (plan.frame l).closing
        ++ if plan.hasElse then Stmt.edits (.whenSet l.empty otherwise) else [] := by
  obtain ⟨key, value, keepsState, sharesScope, hasElse⟩ := plan
  cases keepsState <;> cases sharesScope <;> cases hasElse <;>
    simp [LoopPlan.statements, LoopPlan.front, LoopPlan.opening, LoopPlan.closing, LoopPlan.bindings, LoopPlan.repetition,
      LoopPlan.frame, LoopFrame.closing,
      Stmt.allEdits, Stmt.edits, Code.braced, blockHead, blockEnd, allEdits_append]

theorem behind_behind (first : List Stmt) (compiled : List Stmt × Progress) :
    (u.put (Stmt.allEdits first)).behind suspended older compiled =
      u.behind suspended older (first ++ compiled.1, compiled.2) := by
  simp only [OpenUnit.behind, OpenUnit.put_put, allEdits_append]

theorem chainFront_closed (chain : Chain) : chainFront true chain ++ blockEnd = chain.edits :=
  match chain with
  | .done => rfl
  | .otherwise body => by simp [chainFront, otherwiseHead, blockEnd, Chain.edits]
  | .orElse test body rest => by simp [chainFront, branchHead, Chain.edits, ← chainFront_closed rest]

theorem chainFront_statements {chain : Chain} (started : chain ≠ .done) :
    chainFront false chain ++ blockEnd = Stmt.allEdits (chainStatements chain) := by
  cases chain with
  | done => exact absurd rfl started
  | otherwise body =>
      simp [chainFront, otherwiseHead, blockEnd, chainStatements, Stmt.allEdits, Stmt.edits, Code.braced]
  | orElse test body rest =>
      simp [chainFront, branchHead, chainStatements, Stmt.allEdits, Stmt.edits, ← chainFront_closed rest]

theorem branches_started {inLoop : Bool} {test : Code.Expr → Test} {children : List Tree} {chain : Chain} {p' : Progress}
    (compiled : branches s inLoop test p children = .ok (chain, p')) (some : children ≠ []) : chain ≠ .done := by
  match children with
  | [] => exact absurd rfl some
  | [last] =>
      obtain ⟨body, -, ⟨⟩⟩ := bind_eq_ok.mp compiled
      exact nofun
  | value :: content :: children =>
      obtain ⟨value, -, compiled⟩ := bind_eq_ok.mp compiled
      obtain ⟨body, -, compiled⟩ := bind_eq_ok.mp compiled
      obtain ⟨rest, -, ⟨⟩⟩ := bind_eq_ok.mp compiled
      exact nofun

theorem closeLoop_behind (plan : LoopPlan) (l : LoopLocals) (iterable : Code.Expr) (body : List Stmt × Progress)
    (line : Nat) :
    (OpenUnit.behind { u.put (plan.front l iterable) with loops := plan.frame l :: u.loops } suspended older body).closeLoop
        line =
      .ok (plan.frame l, (u.put (plan.front l iterable ++ Stmt.allEdits body.1 ++ (plan.frame l).closing)).bench suspended
        older body.2) := by
  simp [OpenUnit.behind, OpenUnit.bench, Workbench.closeLoop, Workbench.put, OpenUnit.put, Buffer.applyAll]

theorem writeAssignment_eq (children : List Tree) (line : Nat) (notes : Annotations) :
    writeAssignment s (u.bench suspended older p) children line notes =
      (assignment s children line notes p).map (u.behind suspended older) := by
  apply bind_alike
  intro child
  cases notes.text? "name" with
  | none => rfl
  | some name => exact bind_alike fun value => rfl

theorem writeInclusion_eq (children : List Tree) (line : Nat) :
    writeInclusion s (u.bench suspended older p) children line =
      (inclusion s children line p).map (u.behind suspended older) :=
  bind_alike fun _ => bind_alike fun _ => rfl

end

-- By induction on the tree. Each lemma is about every template that is open, so that the induction also covers the bodies
-- inside a loop, with one more frame, and inside a nested template, with one more template suspended.
mutual

theorem write_eq (s : Setting) (u : OpenUnit) (suspended older : List OpenUnit) (p : Progress) (tree : Tree) :
    write s (u.bench suspended older p) tree =
      (statement s (!u.loops.isEmpty) p tree).map (u.behind suspended older) := by
  cases tree with
  | root children line notes | block children line notes => exact writeAll_eq s u suspended older p children
  | tag id children line notes =>
      rw [write, statement]
      cases s.registries.tags.get? id with
      | none => rfl
      | some definition =>
          dsimp only
          cases definition.form with
          | print => exact bind_alike fun written => rfl
          | assignment => exact writeAssignment_eq children line notes
          | inclusion => exact writeInclusion_eq children line
          | conditional =>
              dsimp only
              split
              · rfl
              · rename_i paired
                rw [writeBranches_eq s u suspended older p .holds false children]
                cases compiled : branches s (!u.loops.isEmpty) .holds p children with
                | error e => rfl
                | ok chain =>
                    have started := branches_started compiled (by rintro rfl; simp [pairedCount] at paired)
                    simp [Except.map, OpenUnit.behindChain, OpenUnit.behind, chainFront_statements started]
          | switch => exact writeSwitch_eq s u suspended older p line (notes.flag "has_default" false) children
          | loop =>
              cases planned : loopPlan notes (!u.loops.isEmpty) children line with
              | error e => simp only [OpenUnit.bench, planned, error_bind, Except.map]
              | ok plan =>
                  simp only [OpenUnit.bench, planned, ok_bind]
                  exact writeLoop_eq s u suspended older p line plan children (loopPlan_counted planned)
          | nested => exact writeNested_eq s u suspended older p line (notes.text? "name") children
          | custom takesExpression =>
              have content := writeCustom_eq s (u.put (blockHead (definition.keyword ++ " "))) suspended older p
                takesExpression children
              simp only [bench_put, content, OpenUnit.loops_put]
              apply map_bind_alike
              intro inner
              simp [OpenUnit.behind, Stmt.allEdits, Stmt.edits, Code.braced, blockHead, blockEnd, Except.map]
  | operator | call | data | list | «variable» | identifier | index | missing => rfl

theorem writeAll_eq (s : Setting) (u : OpenUnit) (suspended older : List OpenUnit) (p : Progress) (children : List Tree) :
    writeAll s (u.bench suspended older p) children =
      (statements s (!u.loops.isEmpty) p children).map (u.behind suspended older) := by
  cases children with
  | nil => rfl
  | cons child children =>
      rw [writeAll, statements, write_eq s u suspended older p child]
      apply map_bind_alike
      intro first
      apply (writeAll_eq s (u.put (Stmt.allEdits first.1)) suspended older first.2 children).trans
      exact map_alike fun rest => behind_behind first.1 rest

theorem writeBranches_eq (s : Setting) (u : OpenUnit) (suspended older : List OpenUnit) (p : Progress)
    (test : Code.Expr → Test) (opened : Bool) (children : List Tree) :
    writeBranches s test opened (u.bench suspended older p) children =
      (branches s (!u.loops.isEmpty) test p children).map (u.behindChain suspended older opened) := by
  match children with
  | [] => rfl
  | [last] =>
      have body := write_eq s (u.put (otherwiseHead opened)) suspended older p last
      simp only [writeBranches, branches, bench_put, body, OpenUnit.loops_put]
      apply map_alike
      intro body
      simp [OpenUnit.behind, OpenUnit.behindChain, chainFront]
  | value :: content :: children =>
      simp only [writeBranches, branches]
      apply bind_alike
      intro value
      have body := write_eq s (u.put (branchHead opened (test value))) suspended older p content
      simp only [bench_put, body, OpenUnit.loops_put]
      apply map_bind_alike
      intro body
      apply (writeBranches_eq s ((u.put (branchHead opened (test value))).put (Stmt.allEdits body.1)) suspended older body.2
        test true children).trans
      apply map_alike
      intro rest
      simp [OpenUnit.behindChain, chainFront]

theorem writeSwitch_eq (s : Setting) (u : OpenUnit) (suspended older : List OpenUnit) (p : Progress) (line : Nat)
    (hasDefault : Bool) (children : List Tree) :
    (do
      let w ← writeSwitch s (u.bench suspended older p) line hasDefault children
      return if 1 < children.length then w.put blockEnd else w) =
      (switch s (!u.loops.isEmpty) p line hasDefault children).map (u.behind suspended older) := by
  cases children with
  | nil => rfl
  | cons subject cases' =>
      simp only [writeSwitch, switch]
      split
      · rfl
      · rw [bind_assoc]
        apply bind_alike
        intro subject
        let held := u.put (Stmt.allEdits [.hold p.nextLocal subject])
        show (writeBranches s (.equals p.nextLocal) false (held.bench suspended older (p.reserve 1)) cases' >>= _) = _
        rw [writeBranches_eq s held suspended older (p.reserve 1) (.equals p.nextLocal) false cases']
        dsimp only [held, OpenUnit.loops_put]
        cases compiled : branches s (!u.loops.isEmpty) (.equals p.nextLocal) (p.reserve 1) cases' with
        | error e => rfl
        | ok chain =>
            cases cases' with
            | nil =>
                cases compiled
                rfl
            | cons first later =>
                have started := branches_started compiled (List.cons_ne_nil _ _)
                have front : Stmt.allEdits [.hold p.nextLocal subject] ++ Stmt.allEdits (chainStatements chain.1) =
                    Stmt.allEdits (.hold p.nextLocal subject :: chainStatements chain.1) := rfl
                simp [Except.map, OpenUnit.behindChain, OpenUnit.behind, chainFront_statements started, ← front]

theorem writeLoop_eq (s : Setting) (u : OpenUnit) (suspended older : List OpenUnit) (p : Progress) (line : Nat)
    (plan : LoopPlan) (children : List Tree)
    (counted : (children.length = 2 ∨ children.length = 3) ∧ plan.hasElse = (children.length == 3)) :
    (do
      let w ← writeLoop s (u.bench suspended older p) line plan children
      let (frame, w) ← w.closeLoop line
      match frame.empty with
      | none => return w
      | some empty => writeEmpty s w line empty children) =
      (loop s (!u.loops.isEmpty) p plan children).map (u.behind suspended older) := by
  obtain ⟨counted, hasElse⟩ := counted
  match children with
  | [] | [_] | _ :: _ :: _ :: _ :: _ => simp at counted
  | [iterable, content] =>
      have empty : (plan.frame (plan.locals p.nextLocal)).empty = none := by
        simp [LoopPlan.frame, hasElse]
      simp only [writeLoop, loop, bind_assoc]
      apply bind_alike
      intro iterable
      rw [bench_openLoop, write_eq]
      apply map_bind_alike
      intro body
      rw [closeLoop_behind, ok_bind]
      dsimp only
      rw [empty]
      simp [OpenUnit.behind, Except.map, LoopPlan.edits_statements, hasElse]
  | [iterable, content, last] =>
      have empty : (plan.frame (plan.locals p.nextLocal)).empty = some (plan.locals p.nextLocal).empty := by
        simp [LoopPlan.frame, hasElse]
      simp only [writeLoop, loop, bind_assoc]
      apply bind_alike
      intro iterable
      rw [bench_openLoop, write_eq]
      apply map_bind_alike
      intro body
      rw [closeLoop_behind, ok_bind]
      dsimp only
      simp only [empty, writeEmpty, bench_put, write_eq, OpenUnit.loops_put]
      apply map_bind_alike
      intro otherwise
      simp [OpenUnit.behind, Except.map, LoopPlan.edits_statements, hasElse, Stmt.edits, Code.braced, blockHead, blockEnd]

theorem writeNested_eq (s : Setting) (u : OpenUnit) (suspended older : List OpenUnit) (p : Progress) (line : Nat)
    (name : Option String) (children : List Tree) :
    writeNested s (u.bench suspended older p) line name children =
      (nested s p line name children).map (u.behind suspended older) := by
  match children with
  | [] | _ :: _ :: _ => cases name <;> rfl
  | [content] =>
      cases name with
      | none => rfl
      | some name =>
          simp only [writeNested, nested, beginUnit_bench]
          apply map_bind_alike
          intro begun
          rw [write_eq]
          exact map_bind_alike fun body => endUnit_behind body.1 line

theorem writeCustom_eq (s : Setting) (u : OpenUnit) (suspended older : List OpenUnit) (p : Progress)
    (takesExpression : Bool) (children : List Tree) :
    writeCustom s (u.bench suspended older p) takesExpression children =
      (custom s (!u.loops.isEmpty) p takesExpression children).map (u.behind suspended older) := by
  cases children with
  | nil => rfl
  | cons first children =>
      simp only [writeCustom, custom]
      split
      · apply bind_alike
        intro value
        apply (writeAll_eq s (u.put (Stmt.allEdits [.evaluate value])) suspended older p children).trans
        exact map_alike fun rest => behind_behind [.evaluate value] rest
      · rw [write_eq s u suspended older p first]
        apply map_bind_alike
        intro one
        apply (writeAll_eq s (u.put (Stmt.allEdits one.1)) suspended older one.2 children).trans
        exact map_alike fun rest => behind_behind one.1 rest

end

/-- A statement that is written has been compiled to the lines that it adds. -/
theorem exists_of_write {s : Setting} {w w' : Workbench} {tree : Tree} (written : write s w tree = .ok w') :
    ∃ compiled, statement s (!w.current.loops.isEmpty) { nextLocal := w.nextLocal, typeNames := w.typeNames } tree =
        .ok compiled ∧ w' = w.current.behind w.suspended w.finished compiled := by
  rw [← w.bench_self, write_eq] at written
  cases compiled : statement s (!w.current.loops.isEmpty) { nextLocal := w.nextLocal, typeNames := w.typeNames } tree with
  | error e =>
      rw [compiled] at written
      cases written
  | ok code =>
      rw [compiled] at written
      exact ⟨code, rfl, (Except.ok.inj written).symm⟩

/-- Written in one go, the templates of a module are those that are compiled and printed. -/
theorem write_start (s : Setting) (tree : Tree) :
    write s (.start s) tree =
      (statement s false {} tree).map (OpenUnit.behind { name := s.mainName, typeName := "Template" } [] []) :=
  write_eq s { name := s.mainName, typeName := "Template" } [] [] {} tree

theorem moduleText_eq (s : Setting) (namespaceName : String) (tree : Option Tree) :
    moduleText s namespaceName tree = (template s tree).map (Code.Module.text namespaceName) := by
  cases tree with
  | none => rfl
  | some tree =>
      rw [moduleText, template, write_start]
      apply map_bind_alike
      intro compiled
      have edits : (compiled.2.finished.map OpenUnit.ofTemplate).flatMap
          (fun u => Code.templateEdits u.name u.typeName u.buffer.text) = compiled.2.finished.flatMap Code.Template.edits := by
        rw [List.flatMap_map]
        rfl
      have types : (compiled.2.finished.map OpenUnit.ofTemplate).map OpenUnit.typeName =
          compiled.2.finished.map Code.Template.typeName := by
        rw [List.map_map]
        rfl
      simp only [Workbench.text, OpenUnit.behind, OpenUnit.bench, List.nil_append, List.flatMap_cons, List.map_cons, edits,
        types]
      rfl

section

variable {s : Setting} {w w' : Workbench} {tree : Tree}

/-- A statement leaves the loops of its template and the templates around it as they were. -/
theorem write_keeps (written : write s w tree = .ok w') :
    w'.current.loops = w.current.loops ∧ w'.suspended = w.suspended := by
  obtain ⟨compiled, -, rfl⟩ := exists_of_write written
  exact ⟨rfl, rfl⟩

/-- A nested template with a body is written apart: from an empty text at the level of all templates and outside of loops,
with the template around it suspended as it stood, to which writing returns. -/
structure WrittenApart (s : Setting) (w : Workbench) (name : String) (content : Tree) (begun last w' : Workbench) : Prop where
  /-- The template starts empty. -/
  fresh : begun.current =
    { name := name, typeName := Code.nestedTypeName name, buffer := { level := 3, text := "" }, loops := [] }
  /-- The one around it waits. -/
  suspends : begun.suspended = w.current :: w.suspended ∧ begun.finished = w.finished
  /-- The body is written in between. -/
  body : write s begun content = .ok last
  /-- All that the body opened is closed again. -/
  balanced : last.current.loops = [] ∧ last.suspended = w.current :: w.suspended
  /-- The template around it goes on where it stood, text, level and loops. -/
  resumes : w'.current = w.current ∧ w'.suspended = w.suspended
  /-- The template is the next one that has ended. -/
  ended : w'.finished = last.finished ++ [last.current]

theorem beginUnit_ok {name : String} {line : Nat} {begun : Workbench} (beginning : w.beginUnit s name line = .ok begun) :
    begun.current = { name := name, typeName := Code.nestedTypeName name } ∧ begun.suspended = w.current :: w.suspended ∧
      begun.finished = w.finished := by
  unfold Workbench.beginUnit at beginning
  dsimp only at beginning
  split at beginning
  · cases beginning
  · split at beginning
    · cases beginning
    · cases beginning
      exact ⟨rfl, rfl, rfl⟩

theorem writeNested_apart {line : Nat} {name : Option String} {children : List Tree}
    (written : writeNested s w line name children = .ok w') :
    ∃ content given begun last, children = [content] ∧ name = some given ∧ WrittenApart s w given content begun last w' := by
  match children, name with
  | [], _ | _ :: _ :: _, _ | [_], none => cases written
  | [content], some given =>
      obtain ⟨begun, beginning, written⟩ := bind_eq_ok.mp written
      obtain ⟨last, body, ended⟩ := bind_eq_ok.mp written
      obtain ⟨fresh, suspends, older⟩ := beginUnit_ok beginning
      obtain ⟨loops, around⟩ := write_keeps body
      rw [fresh] at loops
      rw [suspends] at around
      obtain rfl : { last with
          current := w.current, suspended := w.suspended, finished := last.finished ++ [last.current] } = w' := by
        simpa [Workbench.endUnit, around] using ended
      exact ⟨content, given, begun, last, rfl, rfl, fresh, ⟨suspends, older⟩, body, ⟨loops, around⟩, ⟨rfl, rfl⟩, rfl⟩

theorem write_template {unit : Code.Module} (compiled : template s (some tree) = .ok unit) :
    ∃ w, write s (.start s) tree = .ok w ∧ w.suspended = [] ∧
      w.current :: w.finished = unit.templates.map OpenUnit.ofTemplate := by
  obtain ⟨⟨body, p⟩, compiling, ⟨⟩⟩ := bind_eq_ok.mp compiled
  have written := write_start s tree
  rw [compiling] at written
  exact ⟨_, written, rfl, rfl⟩

/-- The text of a template that has been written is that of its statements. -/
theorem OpenUnit.text_ofTemplate (template : Code.Template) : (OpenUnit.ofTemplate template).buffer.text = template.bodyText :=
  rfl

end

end Templating.Compile

namespace Templating.Compiler

theorem compileSource_eq (c : Compiler) (name source : String) :
    c.compileSource name source = do
      let compiled ← c.compileModule name source
      return compiled.text c.config.cacheNamespace := by
  rw [compileSource, compileModule, bind_assoc]
  congr 1
  funext arena
  dsimp only
  rw [Compile.moduleText_eq]
  cases Compile.template ⟨c.registries, name⟩ (c.optimize arena).toTree? <;> rfl

end Templating.Compiler
