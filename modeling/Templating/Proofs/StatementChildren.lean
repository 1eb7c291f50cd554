import Templating.Compile.Statement
import Templating.Proofs.Outcome

/-! # What compiling a statement comes to

A tag compiles all of its children, each as an expression or as a statement, one after the other. A template tag has a single
child, its body, which is compiled between the beginning and the end of a template of its own. What is true of the templates
that begin and end while a statement is compiled follows from the children by induction on the tree.
-/

namespace Templating.Compile

/-- No template has begun or ended between two stages of compiling. -/
structure Progress.SameUnits (p p' : Progress) : Prop where
  finished : p'.finished = p.finished
  typeNames : p'.typeNames = p.typeNames

theorem Progress.SameUnits.refl {p : Progress} : p.SameUnits p :=
  ⟨rfl, rfl⟩

theorem Progress.SameUnits.trans {p middle p' : Progress} (first : p.SameUnits middle) (second : middle.SameUnits p') :
    p.SameUnits p' :=
  ⟨second.finished.trans first.finished, second.typeNames.trans first.typeNames⟩

/-- Trees are compiled one after the other between two stages, each as an expression or as a statement. The number of the
next local may change in between. -/
inductive Compiles (s : Setting) : Progress → List Tree → Progress → Prop
  | done {p p' : Progress} (same : p.SameUnits p') : Compiles s p [] p'
  | expression {p p' : Progress} {tree : Tree} {trees : List Tree} {value : Code.Expr}
      (compiled : expression s.registries tree = .ok value) (rest : Compiles s p trees p') : Compiles s p (tree :: trees) p'
  | statement {p start middle p' : Progress} {inLoop : Bool} {tree : Tree} {trees : List Tree} {code : List Code.Stmt}
      (same : p.SameUnits start) (compiled : statement s inLoop start tree = .ok (code, middle))
      (rest : Compiles s middle trees p') : Compiles s p (tree :: trees) p'

section

variable {s : Setting} {inLoop : Bool} {p start p' : Progress} {children : List Tree} {line : Nat}

theorem Compiles.from (compiles : Compiles s start children p') (same : p.SameUnits start) : Compiles s p children p' := by
  induction compiles with
  | done unchanged => exact .done (same.trans unchanged)
  | expression compiled rest ih => exact .expression compiled (ih same)
  | statement before compiled rest ih => exact .statement (same.trans before) compiled rest

theorem Compiles.accepted {tree : Tree} (compiles : Compiles s p children p') (member : tree ∈ children) :
    (∃ value, Compile.expression s.registries tree = .ok value) ∨
      ∃ inLoop start compiled, Compile.statement s inLoop start tree = .ok compiled := by
  induction compiles with
  | done => cases member
  | expression compiled rest ih =>
      rcases List.mem_cons.mp member with rfl | later
      · exact .inl ⟨_, compiled⟩
      · exact ih later
  | statement before compiled rest ih =>
      rcases List.mem_cons.mp member with rfl | later
      · exact .inr ⟨_, _, _, compiled⟩
      · exact ih later

theorem statements_compiles {code : List Code.Stmt} (compiled : statements s inLoop p children = .ok (code, p')) :
    Compiles s p children p' := by
  induction children generalizing p code with
  | nil =>
      cases compiled
      exact .done .refl
  | cons child children ih =>
      obtain ⟨⟨first, middle⟩, one, compiled⟩ := bind_eq_ok.mp compiled
      obtain ⟨⟨rest, last⟩, others, ⟨⟩⟩ := bind_eq_ok.mp compiled
      exact .statement .refl one (ih others)

theorem branches_compiles {p p' : Progress} {children : List Tree} {test : Code.Expr → Code.Test} {chain : Code.Chain}
    (compiled : branches s inLoop test p children = .ok (chain, p')) : Compiles s p children p' := by
  match children with
  | [] =>
      cases compiled
      exact .done .refl
  | [last] =>
      obtain ⟨⟨body, next⟩, content, ⟨⟩⟩ := bind_eq_ok.mp compiled
      exact .statement .refl content (.done .refl)
  | value :: content :: children =>
      obtain ⟨value, evaluated, compiled⟩ := bind_eq_ok.mp compiled
      obtain ⟨⟨body, middle⟩, one, compiled⟩ := bind_eq_ok.mp compiled
      obtain ⟨⟨rest, last⟩, others, ⟨⟩⟩ := bind_eq_ok.mp compiled
      exact .expression evaluated (.statement .refl one (branches_compiles others))

theorem onlyChild_ok {tag : String} {child : Tree} (only : onlyChild tag children line = .ok child) : children = [child] := by
  unfold onlyChild at only
  split at only
  · cases only
    rfl
  · cases only

theorem print_compiles {notes : Annotations} {written : List Code.Stmt} (compiled : print s children line notes = .ok written) :
    Compiles s p children p := by
  obtain ⟨child, only, printed⟩ := bind_eq_ok.mp compiled
  cases onlyChild_ok only
  split at printed
  · split at printed
    · exact .expression rfl (.done .refl)
    · cases printed
    · cases printed
  · obtain ⟨value, evaluated, -⟩ := bind_eq_ok.mp printed
    exact .expression evaluated (.done .refl)

theorem assignment_compiles {notes : Annotations} {code : List Code.Stmt}
    (compiled : assignment s children line notes p = .ok (code, p')) : Compiles s p children p' := by
  obtain ⟨child, only, assigned⟩ := bind_eq_ok.mp compiled
  cases onlyChild_ok only
  split at assigned
  · cases assigned
  · obtain ⟨value, evaluated, ⟨⟩⟩ := bind_eq_ok.mp assigned
    exact .expression evaluated (.done ⟨rfl, rfl⟩)

theorem inclusion_compiles {code : List Code.Stmt} (compiled : inclusion s children line p = .ok (code, p')) :
    Compiles s p children p' := by
  obtain ⟨child, only, included⟩ := bind_eq_ok.mp compiled
  cases onlyChild_ok only
  obtain ⟨value, evaluated, ⟨⟩⟩ := bind_eq_ok.mp included
  exact .expression evaluated (.done ⟨rfl, rfl⟩)

theorem switch_compiles {hasDefault : Bool} {code : List Code.Stmt}
    (compiled : switch s inLoop p line hasDefault children = .ok (code, p')) : Compiles s p children p' := by
  cases children with
  | nil => cases compiled
  | cons subject cases' =>
      simp only [switch] at compiled
      split at compiled
      · cases compiled
      · obtain ⟨value, evaluated, compiled⟩ := bind_eq_ok.mp compiled
        obtain ⟨⟨chain, last⟩, chained, ⟨⟩⟩ := bind_eq_ok.mp compiled
        exact .expression evaluated ((branches_compiles chained).from ⟨rfl, rfl⟩)

theorem loop_compiles {notes : Annotations} {plan : LoopPlan} {code : List Code.Stmt}
    (planned : loopPlan notes inLoop children line = .ok plan) (compiled : loop s inLoop p plan children = .ok (code, p')) :
    Compiles s p children p' := by
  match children with
  | [] | [_] | _ :: _ :: _ :: _ :: _ => simp [loopPlan] at planned
  | [iterable, content] =>
      obtain ⟨value, evaluated, compiled⟩ := bind_eq_ok.mp compiled
      obtain ⟨⟨body, last⟩, inner, ⟨⟩⟩ := bind_eq_ok.mp compiled
      have content : Compiles s _ [content] p' := .statement .refl inner (.done .refl)
      exact .expression evaluated (content.from ⟨rfl, rfl⟩)
  | [iterable, content, other] =>
      obtain ⟨value, evaluated, compiled⟩ := bind_eq_ok.mp compiled
      obtain ⟨⟨body, middle⟩, inner, compiled⟩ := bind_eq_ok.mp compiled
      obtain ⟨⟨otherwise, last⟩, outer, ⟨⟩⟩ := bind_eq_ok.mp compiled
      have contents : Compiles s _ [content, other] p' := .statement .refl inner (.statement .refl outer (.done .refl))
      exact .expression evaluated (contents.from ⟨rfl, rfl⟩)

theorem custom_compiles {takesExpression : Bool} {code : List Code.Stmt}
    (compiled : custom s inLoop p takesExpression children = .ok (code, p')) : Compiles s p children p' := by
  cases children with
  | nil =>
      cases compiled
      exact .done .refl
  | cons first children =>
      simp only [custom] at compiled
      split at compiled
      · obtain ⟨value, evaluated, compiled⟩ := bind_eq_ok.mp compiled
        obtain ⟨⟨rest, last⟩, others, ⟨⟩⟩ := bind_eq_ok.mp compiled
        exact .expression evaluated (statements_compiles others)
      · obtain ⟨⟨content, middle⟩, one, compiled⟩ := bind_eq_ok.mp compiled
        obtain ⟨⟨rest, last⟩, others, ⟨⟩⟩ := bind_eq_ok.mp compiled
        exact .statement .refl one (statements_compiles others)

/-- A nested template has one body and ends behind it. -/
def EndsNested (s : Setting) (p : Progress) (name : Option String) (children : List Tree) (p' : Progress) : Prop :=
  ∃ given line content begun body last, name = some given ∧ children = [content] ∧ beginNested s given line p = .ok begun ∧
    statement s false begun content = .ok (body, last) ∧ p' = endNested given body last

theorem nested_ends {name : Option String} {code : List Code.Stmt} (compiled : nested s p line name children = .ok (code, p')) :
    EndsNested s p name children p' := by
  match children with
  | [] | _ :: _ :: _ => cases compiled
  | [content] =>
      simp only [nested] at compiled
      split at compiled
      · cases compiled
      · obtain ⟨begun, beginning, compiled⟩ := bind_eq_ok.mp compiled
        obtain ⟨⟨body, last⟩, inner, ⟨⟩⟩ := bind_eq_ok.mp compiled
        exact ⟨_, line, content, begun, body, last, rfl, rfl, beginning, inner, rfl⟩

/-- All children of a tag are compiled; those of a template tag inside a template of their own. -/
theorem tag_compiles {id : Nat} {notes : Annotations} {code : List Code.Stmt}
    (compiled : statement s inLoop p (.tag id children line notes) = .ok (code, p')) :
    ((s.registries.tags.get? id).map (·.form) ≠ some .nested ∧ Compiles s p children p') ∨
      ((s.registries.tags.get? id).map (·.form) = some .nested ∧ EndsNested s p (notes.text? "name") children p') := by
  simp only [statement] at compiled
  split at compiled
  · cases compiled
  · rename_i definition known
    split at compiled
    all_goals rename_i form; rw [known, Option.map_some, form]
    · obtain ⟨written, printed, ⟨⟩⟩ := bind_eq_ok.mp compiled
      exact .inl ⟨by simp, print_compiles printed⟩
    · exact .inl ⟨by simp, assignment_compiles compiled⟩
    · exact .inl ⟨by simp, inclusion_compiles compiled⟩
    · split at compiled
      · cases compiled
      · obtain ⟨⟨chain, next⟩, chained, ⟨⟩⟩ := bind_eq_ok.mp compiled
        exact .inl ⟨by simp, branches_compiles chained⟩
    · exact .inl ⟨by simp, switch_compiles compiled⟩
    · obtain ⟨plan, planned, compiled⟩ := bind_eq_ok.mp compiled
      exact .inl ⟨by simp, loop_compiles planned compiled⟩
    · exact .inr ⟨rfl, nested_ends compiled⟩
    · obtain ⟨⟨content, next⟩, inner, ⟨⟩⟩ := bind_eq_ok.mp compiled
      exact .inl ⟨by simp, custom_compiles inner⟩

end

end Templating.Compile
