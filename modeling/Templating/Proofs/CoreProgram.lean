import Templating.Proofs.Outcome
import Templating.Proofs.Program
import Templating.Proofs.TreeShape

/-! # What core tags compile to

Every tree that compiles with tags of the core forms compiles to the code of a program, with the locals
numbered in the same way. Results about programs are therefore results about compiled templates.
-/

namespace Templating.Compile

/-- No tag has a form of its own. -/
def CoreForms (s : Setting) : Prop :=
  ∀ definition ∈ s.registries.tags.tags, ∀ takesExpression, definition.form ≠ .custom takesExpression

theorem coreForms_of_isCore {s : Setting} (core : s.registries.tags.IsCore) : CoreForms s := by
  have forms : ∀ tag ∈ Core.tags, ∀ takesExpression, tag.form ≠ .custom takesExpression := by decide
  exact fun definition member => forms definition (core definition member)

mutual

/-- The templates nested in a step with locals from `next` on, in the order in which they end: the number of the first local
of each, and its steps. -/
def Step.units (next : Nat) : Step → List (Nat × List Step)
  | .text _ => []
  | .output _ _ => []
  | .assign _ _ => []
  | .inclusion _ => []
  | .choose branches => branches.units next
  | .switch _ branches => branches.units (next + 1)
  | .loop plan _ body otherwise =>
    let behind := (plan.locals next).behind
    Step.unitsAll behind body
      ++ (if plan.hasElse then Step.unitsAll (Step.codeAll behind body).2 otherwise else [])
  | .nested body => Step.unitsAll next body ++ [(next, body)]

/-- The templates nested in steps. -/
def Step.unitsAll (next : Nat) : List Step → List (Nat × List Step)
  | [] => []
  | step :: steps => step.units next ++ Step.unitsAll (step.code next).2 steps

/-- The templates nested in branches. -/
def Branches.units (next : Nat) : Branches → List (Nat × List Step)
  | .done => []
  | .otherwise body => Step.unitsAll next body
  | .orElse _ body rest => Step.unitsAll next body ++ rest.units (Step.codeAll next body).2

end

/-- The statements of a nested template. -/
def Step.unitBody (unit : Nat × List Step) : List Code.Stmt :=
  (Step.codeAll unit.1 unit.2).1

mutual

/-- The expressions of a step. -/
def Step.values : Step → List Code.Expr
  | .text _ => []
  | .output _ value => [value]
  | .assign _ value => [value]
  | .inclusion name => [name]
  | .choose branches => branches.values
  | .switch subject branches => subject :: branches.values
  | .loop _ iterable body otherwise => iterable :: (Step.valuesAll body ++ Step.valuesAll otherwise)
  | .nested body => Step.valuesAll body

/-- The expressions of steps. -/
def Step.valuesAll : List Step → List Code.Expr
  | [] => []
  | step :: steps => step.values ++ Step.valuesAll steps

/-- The expressions of branches. -/
def Branches.values : Branches → List Code.Expr
  | .done => []
  | .otherwise body => Step.valuesAll body
  | .orElse value body rest => value :: (Step.valuesAll body ++ rest.values)

end

/-- Between two stages of compiling, templates with the statements of these steps were finished. -/
def Finished (p : Progress) (units : List (Nat × List Step)) (p' : Progress) : Prop :=
  ∃ templates : List Code.Template, p'.finished = p.finished ++ templates ∧
    templates.map Code.Template.body = units.map Step.unitBody ∧
    ∀ template ∈ templates, template.typeName = Code.nestedTypeName template.name

/-- All expressions were compiled. -/
def Compiled (s : Setting) (values : List Code.Expr) : Prop :=
  ∀ value ∈ values, ∃ tree, expression s.registries tree = .ok value

/-- Statements are the code of steps between two stages of compiling. -/
structure Realizes (s : Setting) (steps : List Step) (p : Progress) (code : List Code.Stmt) (p' : Progress) : Prop where
  code : Step.codeAll p.nextLocal steps = (code, p'.nextLocal)
  units : Finished p (Step.unitsAll p.nextLocal steps) p'
  values : Compiled s (Step.valuesAll steps)

/-- Statements that are the code of a program between two stages of compiling. -/
def IsProgram (s : Setting) (p : Progress) (code : List Code.Stmt) (p' : Progress) : Prop :=
  ∃ steps, Realizes s steps p code p'

/-- So is a chain of branches. -/
structure BranchesRealize (s : Setting) (test : Code.Expr → Code.Test) (branches : Branches) (p : Progress)
    (chain : Code.Chain) (p' : Progress) : Prop where
  code : branches.code test p.nextLocal = (chain, p'.nextLocal)
  units : Finished p (branches.units p.nextLocal) p'
  values : Compiled s branches.values

section

variable {s : Setting} {p middle p' : Progress} {units more : List (Nat × List Step)} {values others : List Code.Expr}

theorem Finished.none (same : p'.finished = p.finished) : Finished p [] p' :=
  ⟨[], by rw [same, List.append_nil], rfl, nofun⟩

theorem Finished.append (before : Finished p units middle) (behind : Finished middle more p') :
    Finished p (units ++ more) p' := by
  obtain ⟨first, grown, bodies, named⟩ := before
  obtain ⟨second, grownFurther, moreBodies, alsoNamed⟩ := behind
  refine ⟨first ++ second, ?_, ?_, List.forall_mem_append.mpr ⟨named, alsoNamed⟩⟩
  · rw [grownFurther, grown, List.append_assoc]
  · rw [List.map_append, List.map_append, bodies, moreBodies]

/-- The body of a template that was finished is the code of steps. -/
theorem exists_of_mem_finished {templates : List Code.Template} {template : Code.Template}
    (bodies : templates.map Code.Template.body = units.map Step.unitBody) (member : template ∈ templates) :
    ∃ first steps, template.body = (Step.codeAll first steps).1 := by
  have among : template.body ∈ units.map Step.unitBody := bodies ▸ List.mem_map_of_mem member
  obtain ⟨⟨first, steps⟩, -, same⟩ := List.mem_map.mp among
  exact ⟨first, steps, same.symm⟩

theorem Compiled.cons {value : Code.Expr} {tree : Tree} (first : expression s.registries tree = .ok value)
    (rest : Compiled s values) : Compiled s (value :: values) :=
  List.forall_mem_cons.mpr ⟨⟨tree, first⟩, rest⟩

theorem Compiled.append (first : Compiled s values) (rest : Compiled s others) : Compiled s (values ++ others) :=
  List.forall_mem_append.mpr ⟨first, rest⟩

theorem IsProgram.single {code : List Code.Stmt} (step : Step) (same : step.code p.nextLocal = (code, p'.nextLocal))
    (units : Finished p (step.units p.nextLocal) p') (values : Compiled s step.values) : IsProgram s p code p' :=
  ⟨[step], by simp [Step.codeAll, same], by simpa [Step.unitsAll] using units, by simpa [Step.valuesAll] using values⟩

theorem codeAll_append (next : Nat) (first rest : List Step) :
    Step.codeAll next (first ++ rest) =
      ((Step.codeAll next first).1 ++ (Step.codeAll (Step.codeAll next first).2 rest).1,
        (Step.codeAll (Step.codeAll next first).2 rest).2) := by
  induction first generalizing next with
  | nil => simp [Step.codeAll]
  | cons step first ih => simp [Step.codeAll, ih]

theorem unitsAll_append (next : Nat) (first rest : List Step) :
    Step.unitsAll next (first ++ rest) = Step.unitsAll next first ++ Step.unitsAll (Step.codeAll next first).2 rest := by
  induction first generalizing next with
  | nil => simp [Step.unitsAll, Step.codeAll]
  | cons step first ih => simp [Step.unitsAll, Step.codeAll, ih]

theorem valuesAll_append (first rest : List Step) :
    Step.valuesAll (first ++ rest) = Step.valuesAll first ++ Step.valuesAll rest := by
  induction first with
  | nil => rfl
  | cons step first ih => simp [Step.valuesAll, ih]

theorem IsProgram.append {first rest : List Code.Stmt} (one : IsProgram s p first middle)
    (other : IsProgram s middle rest p') : IsProgram s p (first ++ rest) p' := by
  obtain ⟨steps, realizes⟩ := one
  obtain ⟨later, realizesLater⟩ := other
  refine ⟨steps ++ later, ?_, ?_, ?_⟩
  · simp [codeAll_append, realizes.code, realizesLater.code]
  · rw [unitsAll_append, realizes.code]
    exact realizes.units.append realizesLater.units
  · rw [valuesAll_append]
    exact realizes.values.append realizesLater.values

theorem print_isProgram {children : List Tree} {line : Nat} {notes : Annotations} {code : List Code.Stmt}
    (compiled : print s children line notes = .ok code) (p : Progress) : IsProgram s p code p := by
  obtain ⟨child, _, compiled⟩ := bind_eq_ok.mp compiled
  split at compiled
  · split at compiled
    · cases compiled
      exact .single (.text _) rfl (.none rfl) nofun
    · cases compiled
    · cases compiled
  · obtain ⟨value, valued, compiled⟩ := bind_eq_ok.mp compiled
    split at compiled
    · cases compiled
      exact .single (.output true value) rfl (.none rfl) (.cons valued nofun)
    · cases compiled
      exact .single (.output false value) rfl (.none rfl) (.cons valued nofun)

theorem assignment_isProgram {children : List Tree} {line : Nat} {notes : Annotations} {code : List Code.Stmt}
    (compiled : assignment s children line notes p = .ok (code, p')) : IsProgram s p code p' := by
  obtain ⟨child, _, compiled⟩ := bind_eq_ok.mp compiled
  split at compiled
  · cases compiled
  · rename_i name _
    obtain ⟨value, valued, compiled⟩ := bind_eq_ok.mp compiled
    cases compiled
    exact .single (.assign name value) rfl (.none rfl) (.cons valued (List.forall_mem_nil _))

theorem inclusion_isProgram {children : List Tree} {line : Nat} {code : List Code.Stmt}
    (compiled : inclusion s children line p = .ok (code, p')) : IsProgram s p code p' := by
  obtain ⟨child, _, compiled⟩ := bind_eq_ok.mp compiled
  obtain ⟨value, valued, compiled⟩ := bind_eq_ok.mp compiled
  cases compiled
  exact .single (.inclusion value) rfl (.none rfl) (.cons valued nofun)

end

theorem beginNested_nextLocal {s : Setting} {name : String} {line : Nat} {p p' : Progress}
    (begun : beginNested s name line p = .ok p') : p'.nextLocal = p.nextLocal := by
  simp only [beginNested] at begun
  split at begun
  · cases begun
  · split at begun
    · cases begun
    · cases begun
      rfl

theorem beginNested_finished {s : Setting} {name : String} {line : Nat} {p p' : Progress}
    (begun : beginNested s name line p = .ok p') : p'.finished = p.finished := by
  rw [beginNested] at begun
  split at begun
  · cases begun
  · split at begun
    · cases begun
    · cases begun
      rfl

mutual

theorem statement_isProgram {s : Setting} (core : CoreForms s) {inLoop : Bool} {p p' : Progress}
    {tree : Tree} {code : List Code.Stmt}
    (compiled : statement s inLoop p tree = .ok (code, p')) : IsProgram s p code p' := by
  cases tree with
  | root children line notes => exact statements_isProgram core compiled
  | block children line notes => exact statements_isProgram core compiled
  | tag id children line notes =>
      simp only [statement] at compiled
      split at compiled
      · cases compiled
      · rename_i definition found
        split at compiled
        · obtain ⟨written, printed, compiled⟩ := bind_eq_ok.mp compiled
          cases compiled
          exact print_isProgram printed p
        · exact assignment_isProgram compiled
        · exact inclusion_isProgram compiled
        · split at compiled
          · cases compiled
          · obtain ⟨⟨chain, next⟩, chained, compiled⟩ := bind_eq_ok.mp compiled
            cases compiled
            obtain ⟨branches, realizes⟩ := branches_isProgram core chained
            exact .single (.choose branches) (by simp only [Step.code, realizes.code]) realizes.units realizes.values
        · exact switch_isProgram core compiled
        · obtain ⟨plan, planned, compiled⟩ := bind_eq_ok.mp compiled
          exact loop_isProgram core (loopPlan_counted planned).2 compiled
        · exact nested_isProgram core compiled
        · rename_i takesExpression form
          exact absurd form (core definition (List.mem_of_getElem? found) takesExpression)
  | operator | call | data | list | «variable» | identifier | index | missing =>
      simp only [statement, reduceCtorEq] at compiled

theorem statements_isProgram {s : Setting} (core : CoreForms s) {inLoop : Bool} {p p' : Progress}
    {children : List Tree} {code : List Code.Stmt} (compiled : statements s inLoop p children = .ok (code, p')) :
    IsProgram s p code p' := by
  cases children with
  | nil =>
      cases compiled
      exact ⟨[], rfl, .none rfl, nofun⟩
  | cons child children =>
      obtain ⟨⟨first, middle⟩, one, compiled⟩ := bind_eq_ok.mp compiled
      obtain ⟨⟨rest, last⟩, other, compiled⟩ := bind_eq_ok.mp compiled
      cases compiled
      exact (statement_isProgram core one).append (statements_isProgram core other)

theorem branches_isProgram {s : Setting} (core : CoreForms s) {inLoop : Bool}
    {test : Code.Expr → Code.Test} {p p' : Progress} {children : List Tree} {chain : Code.Chain}
    (compiled : branches s inLoop test p children = .ok (chain, p')) :
    ∃ branches : Branches, BranchesRealize s test branches p chain p' := by
  match children with
  | [] =>
      cases compiled
      exact ⟨.done, rfl, .none rfl, nofun⟩
  | [last] =>
      obtain ⟨⟨body, next⟩, content, compiled⟩ := bind_eq_ok.mp compiled
      cases compiled
      obtain ⟨steps, realizes⟩ := statement_isProgram core content
      exact ⟨.otherwise steps, by simp only [Branches.code, realizes.code], realizes.units, realizes.values⟩
  | value :: content :: children =>
      obtain ⟨value, valued, compiled⟩ := bind_eq_ok.mp compiled
      obtain ⟨⟨body, middle⟩, one, compiled⟩ := bind_eq_ok.mp compiled
      obtain ⟨⟨rest, last⟩, other, compiled⟩ := bind_eq_ok.mp compiled
      cases compiled
      obtain ⟨steps, realizes⟩ := statement_isProgram core one
      obtain ⟨later, realizesLater⟩ := branches_isProgram core other
      refine ⟨.orElse value steps later, by simp only [Branches.code, realizes.code, realizesLater.code], ?_,
        .cons valued (realizes.values.append realizesLater.values)⟩
      rw [Branches.units, realizes.code]
      exact realizes.units.append realizesLater.units

theorem switch_isProgram {s : Setting} (core : CoreForms s) {inLoop hasDefault : Bool}
    {p p' : Progress} {line : Nat} {children : List Tree}
    {code : List Code.Stmt} (compiled : switch s inLoop p line hasDefault children = .ok (code, p')) :
    IsProgram s p code p' := by
  cases children with
  | nil => cases compiled
  | cons subject cases' =>
      simp only [switch] at compiled
      split at compiled
      · cases compiled
      · obtain ⟨value, valued, compiled⟩ := bind_eq_ok.mp compiled
        obtain ⟨⟨chain, last⟩, chained, compiled⟩ := bind_eq_ok.mp compiled
        cases compiled
        obtain ⟨branches, realizes⟩ := branches_isProgram core chained
        have numbered : branches.code (.equals p.nextLocal) (p.nextLocal + 1) = (chain, last.nextLocal) := realizes.code
        exact .single (.switch value branches) (by simp only [Step.code, numbered]) realizes.units
          (.cons valued realizes.values)

theorem loop_isProgram {s : Setting} (core : CoreForms s) {inLoop : Bool} {p p' : Progress}
    {plan : LoopPlan} {children : List Tree}
    {code : List Code.Stmt} (hasElse : plan.hasElse = (children.length == 3))
    (compiled : loop s inLoop p plan children = .ok (code, p')) : IsProgram s p code p' := by
  match children with
  | [] | [_] | _ :: _ :: _ :: _ :: _ =>
      cases compiled
      exact ⟨[], rfl, .none rfl, nofun⟩
  | [iterable, content] =>
      obtain ⟨value, valued, compiled⟩ := bind_eq_ok.mp compiled
      obtain ⟨⟨body, last⟩, inner, compiled⟩ := bind_eq_ok.mp compiled
      cases compiled
      obtain ⟨steps, realizes⟩ := statement_isProgram core inner
      have numbered : Step.codeAll (plan.locals p.nextLocal).behind steps = (body, p'.nextLocal) := realizes.code
      have finished : Finished p (Step.unitsAll (plan.locals p.nextLocal).behind steps) p' := realizes.units
      refine .single (.loop plan value steps []) (by simp only [Step.code, numbered, Step.codeAll, ite_self]) ?_
        (.cons valued (realizes.values.append nofun))
      simpa [Step.units, Step.unitsAll] using finished
  | [iterable, content, other] =>
      obtain ⟨value, valued, compiled⟩ := bind_eq_ok.mp compiled
      obtain ⟨⟨body, middle⟩, inner, compiled⟩ := bind_eq_ok.mp compiled
      obtain ⟨⟨otherwise, last⟩, outer, compiled⟩ := bind_eq_ok.mp compiled
      cases compiled
      obtain ⟨steps, realizes⟩ := statement_isProgram core inner
      obtain ⟨later, realizesLater⟩ := statement_isProgram core outer
      have numbered : Step.codeAll (plan.locals p.nextLocal).behind steps = (body, middle.nextLocal) := realizes.code
      have finished : Finished p (Step.unitsAll (plan.locals p.nextLocal).behind steps) middle := realizes.units
      have present : plan.hasElse = true := hasElse
      refine .single (.loop plan value steps later)
        (by simp only [Step.code, numbered, present, if_true, realizesLater.code]) ?_
        (.cons valued (realizes.values.append realizesLater.values))
      simpa [Step.units, numbered, present] using finished.append realizesLater.units

theorem nested_isProgram {s : Setting} (core : CoreForms s) {p p' : Progress} {line : Nat}
    {name : Option String} {children : List Tree}
    {code : List Code.Stmt} (compiled : nested s p line name children = .ok (code, p')) :
    IsProgram s p code p' := by
  match children with
  | [] | _ :: _ :: _ => cases compiled
  | [content] =>
      simp only [nested] at compiled
      split at compiled
      · cases compiled
      · rename_i name
        obtain ⟨begun, beginning, compiled⟩ := bind_eq_ok.mp compiled
        obtain ⟨⟨body, last⟩, inner, compiled⟩ := bind_eq_ok.mp compiled
        cases compiled
        obtain ⟨steps, realizes⟩ := statement_isProgram core inner
        have same := realizes.code
        have units := (Finished.none (beginNested_finished beginning)).append realizes.units
        rw [beginNested_nextLocal beginning] at same units
        have ended : Finished last [(p.nextLocal, steps)] (endNested name body last) :=
          ⟨[⟨name, Code.nestedTypeName name, body⟩], rfl, by simp [Step.unitBody, same], by simp⟩
        refine .single (.nested steps) (by simp only [Step.code, same, endNested]) ?_ realizes.values
        simpa [Step.units] using units.append ended

end

end Templating.Compile
