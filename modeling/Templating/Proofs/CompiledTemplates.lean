import Templating.Compiler.Environment
import Templating.Proofs.CodeGeneration

/-! # Running compiled templates

A tidy environment includes by the values of variables alone, and gives the scopes back that it found. There the code of a
template and the tree of its source end in the same output, or in the same failure. What is compiled is tidy. A host can
register a template that is not, and a loop that shares a scope shows it.
-/

namespace Templating

open Code (Matches IncludesAlike)
open Context (Alike Restorable)

/-- Every template of the environment is compiled. -/
def Environment.IsCompiled (env : Environment) : Prop :=
  ∀ entry ∈ env.templates, Compile.IsCompiled entry.2

/-- Every template of the environment knows variables by their values alone and gives the scopes back that it found, as far
as the templates do that it includes. -/
def Environment.IsTidy (env : Environment) : Prop :=
  ∀ entry ∈ env.templates, ∀ includer, IncludesAlike includer includer →
    Compile.Renders (env.runBody includer entry.2) (env.runBody includer entry.2)

namespace Compile

theorem IsCompiled.renders {body : List Code.Stmt} (compiled : IsCompiled body) (env : Environment)
    {includer : Code.Includer} (includes : IncludesAlike includer includer) :
    Renders (env.runBody includer body) (env.runBody includer body) := by
  obtain ⟨s, inLoop, p, p', tree, core, compiled⟩ := compiled
  obtain ⟨steps, same, -, -⟩ := statement_isProgram core compiled
  intro left right output alike
  have one := runBody_codeAll env env.templates includes p.nextLocal steps alike output
  have other := runBody_codeAll env env.templates includes p.nextLocal steps (fun name => (rfl : right.get? name = _)) output
  rw [same] at one other
  exact one.compare other fun now now' meaning reached reached' =>
    ⟨reached.1.trans reached'.1.symm, fun name => (reached.2.1 name).trans (reached'.2.1 name).symm, reached.2.2⟩

end Compile

namespace Environment

theorem IsCompiled.isTidy {env : Environment} (compiled : env.IsCompiled) : env.IsTidy :=
  fun entry member _ => (compiled entry member).renders env

theorem mem_templates {env : Environment} {name : String} {body : List Code.Stmt} (found : env.template name = .ok body) :
    (name, body) ∈ env.templates := by
  rw [Environment.template] at found
  split at found
  · rename_i there
    cases found
    obtain ⟨front, behind, split, -⟩ := List.lookup_eq_some_iff.mp there
    rw [split]
    exact List.mem_append_right _ List.mem_cons_self
  · cases found

theorem IsTidy.includes {env : Environment} (tidy : env.IsTidy) (depth : Nat) :
    IncludesAlike (env.includer depth) (env.includer depth) := by
  induction depth with
  | zero =>
      intro name left right output _
      exact Matches.bind_same fun _ => .error _
  | succ depth ih =>
      intro name left right output alike
      rw [includer]
      dsimp only
      cases found : env.template name.display with
      | error failure => exact .error failure
      | ok body => exact tidy _ (mem_templates found) _ ih left right output alike

theorem IsCompiled.addTemplate {env : Environment} (compiled : env.IsCompiled) (name : String) {body : List Code.Stmt}
    (own : Compile.IsCompiled body) : (env.addTemplate name body).IsCompiled := by
  intro entry member
  rcases mem_insertByKey member with rfl | earlier
  · exact own
  · exact compiled entry earlier

theorem IsCompiled.addModule {env : Environment} (compiled : env.IsCompiled) {unit : Code.Module}
    (each : ∀ template ∈ unit.main :: unit.nested, Compile.IsCompiled template.body) : (env.addModule unit).IsCompiled := by
  rw [Environment.addModule]
  revert each
  induction unit.main :: unit.nested generalizing env with
  | nil => exact fun _ => compiled
  | cons template templates ih =>
      intro each
      obtain ⟨own, later⟩ := List.forall_mem_cons.mp each
      exact ih (compiled.addTemplate template.name own) later

end Environment

namespace Compiler

variable {config : Config} {loader : Loader} {extensions : List Extension} {c : Compiler}

theorem coreForms_of_build (built : Compiler.build config loader extensions = .ok c)
    (functional : ∀ extension ∈ extensions, extension.IsFunctional) (name : String) :
    Compile.CoreForms ⟨c.registries, name⟩ := by
  obtain ⟨-, -, registered⟩ := of_build built
  exact Compile.coreForms_of_isCore
    (TagRegistry.isCore_of_build registered fun extension member => (functional extension member).2)

theorem parsed_of_compileModule {name source : String} {unit : Code.Module}
    (compiled : c.compileModule name source = .ok unit) :
    ∃ tokens tree, Source.tokenize c.vocabulary source = .ok tokens ∧
      Parse.template ⟨c.registries, c.config.fallbackTag⟩ tokens = .ok tree ∧
      Compile.template ⟨c.registries, name⟩ (c.optimize (.ofTree tree)).toTree? = .ok unit := by
  obtain ⟨arena, parsing, compiling⟩ := bind_eq_ok.mp compiled
  obtain ⟨tokens, lexing, parsing⟩ := bind_eq_ok.mp parsing
  rw [tokenize] at lexing
  split at lexing
  · rename_i lexed
    cases lexing
    split at parsing
    · rename_i filled read
      cases parsing
      obtain ⟨tree, parsed, rfl⟩ := Parse.arena_eq_ok_iff.mp read
      split at compiling
      · rename_i generated
        cases compiling
        exact ⟨tokens, tree, lexed, parsed, generated⟩
      · cases compiling
    · cases parsing
  · cases lexing

/-- The templates of a source are compiled, and the code of the main one does what the tree of the source says. -/
theorem compileModule_emits (built : Compiler.build config loader extensions = .ok c)
    (functional : ∀ extension ∈ extensions, extension.IsFunctional) {name source : String} {unit : Code.Module}
    (compiled : c.compileModule name source = .ok unit) :
    (∀ template ∈ unit.main :: unit.nested, Compile.IsCompiled template.body) ∧
      ∃ tokens tree, Source.tokenize c.vocabulary source = .ok tokens ∧
        Parse.template ⟨c.registries, c.config.fallbackTag⟩ tokens = .ok tree ∧
        ∃ p, Compile.Emits {} unit.main.body p fun env includer context output =>
          Interpret.statement c.registries env includer context output tree := by
  obtain ⟨tokens, tree, lexed, parsed, generated⟩ := parsed_of_compileModule compiled
  obtain ⟨annotated, restored, same, shape, -⟩ := optimize_ofTree built functional parsed
  have core := coreForms_of_build built functional name
  rw [restored] at generated
  obtain ⟨⟨body, p⟩, compiling, ⟨⟩⟩ := bind_eq_ok.mp generated
  have emits := Compile.template_generates core shape same compiling
  refine ⟨List.forall_mem_cons.mpr ⟨⟨_, _, _, _, _, core, compiling⟩, fun template member => ?_⟩,
    tokens, tree, lexed, parsed, p, emits⟩
  exact (emits.finishes template member).resolve_left List.not_mem_nil

theorem isCompiled_register (built : Compiler.build config loader extensions = .ok c)
    (functional : ∀ extension ∈ extensions, extension.IsFunctional) {env later : Environment} (compiled : env.IsCompiled)
    (registered : c.register env = .ok later) : later.IsCompiled := by
  rw [register] at registered
  split at registered
  · cases registered
  · rename_i names _
    obtain ⟨units, fetched, ⟨⟩⟩ := bind_eq_ok.mp registered
    have added : (units.foldl Environment.addModule env).IsCompiled := by
      refine List.foldlRecOn units Environment.addModule compiled fun env compiled unit member => ?_
      obtain ⟨name, -, fetching⟩ := exists_of_mem_mapM fetched member
      rw [fetchModule] at fetching
      split at fetching
      · exact compiled.addModule (compileModule_emits built functional fetching).1
      · cases fetching
    have globals : (c.config.globals.foldl (fun env entry => env.setGlobal entry.1 entry.2.toValue)
        (units.foldl Environment.addModule env)).IsCompiled :=
      List.foldlRecOn c.config.globals _ added fun env compiled entry _ => compiled
    exact globals

/-- Running the code of a source and interpreting its tree end in the same output, or in the same failure, in every
environment of tidy templates. -/
theorem compileModule_interprets (built : Compiler.build config loader extensions = .ok c)
    (functional : ∀ extension ∈ extensions, extension.IsFunctional) {name source : String} {unit : Code.Module}
    (compiled : c.compileModule name source = .ok unit) :
    ∃ tokens tree, Source.tokenize c.vocabulary source = .ok tokens ∧
      Parse.template ⟨c.registries, c.config.fallbackTag⟩ tokens = .ok tree ∧
      ∀ env : Environment, env.IsTidy → ∀ depth context output,
        (env.runBody (env.includer depth) unit.main.body context output).map (·.2) =
          (Interpret.statement c.registries env (env.includer depth) context output tree).map (·.2) := by
  obtain ⟨-, tokens, tree, lexed, parsed, p, ⟨steps, same, renders⟩, -⟩ := compileModule_emits built functional compiled
  refine ⟨tokens, tree, lexed, parsed, fun env others depth context output => ?_⟩
  have includes := others.includes depth
  have itself : Alike context context := fun _ => rfl
  -- The machine and the interpreter both match the program that the code is of.
  have ran := Compile.runBody_codeAll env env.templates includes 0 steps itself output
  have interpreted := renders env (env.includer depth) includes context context output itself
  have code : (Compile.Step.codeAll 0 steps).1 = unit.main.body := congrArg Prod.fst same
  rw [code] at ran
  exact (ran.compare interpreted fun now now' meaning reached reached' => reached.1.trans reached'.1.symm).map_eq
    fun _ _ same => same

/-- A loop in a loop, with a template included in every round. -/
def gridSource : String :=
  "\x7b% for row in rows %\x7d\x7b% for x in row %\x7d\x7b\x7b x \x7d\x7d\x7b% include \"cell\" %\x7d" ++
    "\x7b% endfor %\x7d\x7b% endfor %\x7d"

def cellLoader : Loader :=
  .ofList [("cell", "[\x7b\x7b x \x7d\x7d]")]

def gridRows : Context :=
  .ofGlobals [("rows", .list [.list [.string "a", .string "<"]])]

theorem gridSource_interprets :
    ∃ c unit env tokens tree, Compiler.build {} cellLoader [shoutExtension] = .ok c ∧ shoutExtension.IsFunctional ∧
      c.compileModule "grid" gridSource = .ok unit ∧ c.register {} = .ok env ∧ env.IsCompiled ∧
      Source.tokenize c.vocabulary gridSource = .ok tokens ∧
      Parse.template ⟨c.registries, c.config.fallbackTag⟩ tokens = .ok tree ∧
      (Interpret.statement c.registries env (env.includer Environment.includeLimit) gridRows {} tree).map (·.2) =
        .ok ⟨"a[a]&lt;[&lt;]"⟩ := by
  have outcome : (do
      let c ← (Compiler.build {} cellLoader [shoutExtension]).toOption
      let unit ← (c.compileModule "grid" gridSource).toOption
      let env ← (c.register {}).toOption
      let ran ← (env.runBody (env.includer Environment.includeLimit) unit.main.body gridRows {}).toOption
      return ran.2) = some ⟨"a[a]&lt;[&lt;]"⟩ := by
    have letters : gridSource.toList = _ :=
      String.toList_append.trans (congrArg₂ (· ++ ·) String.toList_ofList String.toList_ofList)
    rw [Compiler.build, Registries.build_core]
    simp only [compileModule_letters letters]
    decide +kernel
  obtain ⟨c, built, outcome⟩ := Option.bind_eq_some_iff.mp outcome
  obtain ⟨unit, compiled, outcome⟩ := Option.bind_eq_some_iff.mp outcome
  obtain ⟨env, registered, outcome⟩ := Option.bind_eq_some_iff.mp outcome
  obtain ⟨result, ran, written⟩ := Option.bind_eq_some_iff.mp outcome
  rw [toOption_eq_some] at built compiled registered ran
  have own : shoutExtension.IsFunctional := ⟨rfl, rfl⟩
  have functional : ∀ extension ∈ [shoutExtension], extension.IsFunctional := by simpa using own
  have empty : Environment.IsCompiled {} := List.forall_mem_nil _
  have others := isCompiled_register built functional empty registered
  obtain ⟨tokens, tree, lexed, parsed, alike⟩ := compileModule_interprets built functional compiled
  refine ⟨c, unit, env, tokens, tree, built, own, compiled, registered, others, lexed, parsed, ?_⟩
  rw [← alike env others.isTidy, ran]
  exact congrArg Except.ok (Option.some.inj written)

/-- A loop in a loop, with a template included in it. -/
def leakSource : String :=
  "\x7b% for a in xs %\x7d\x7b% for b in a %\x7d\x7b% include \"leak\" %\x7d\x7b% endfor %\x7d\x7b\x7b b \x7d\x7d" ++
    "\x7b% endfor %\x7d"

/-- A host template that opens a scope and leaves it open. -/
def leakEnvironment : Environment where
  templates := [("leak", [.pushScope])]

def leakRows : Context :=
  .ofGlobals [("xs", .list [.list [.string "1"]])]

/-- The loop inside takes the open scope for its own and leaves its variable behind, unless it shares the scope around it. -/
theorem leakSource_diverges :
    ∃ c unit tokens tree, Compiler.build {} (.ofList []) [] = .ok c ∧ c.compileModule "page" leakSource = .ok unit ∧
      Source.tokenize c.vocabulary leakSource = .ok tokens ∧
      Parse.template ⟨c.registries, c.config.fallbackTag⟩ tokens = .ok tree ∧
      (leakEnvironment.runBody (leakEnvironment.includer Environment.includeLimit) unit.main.body leakRows {}).map (·.2) =
        .ok ⟨""⟩ ∧
      (Interpret.statement c.registries leakEnvironment (leakEnvironment.includer Environment.includeLimit) leakRows {}
        tree).map (·.2) = .ok ⟨"1"⟩ := by
  have outcome : (do
      let c ← (Compiler.build {} (.ofList []) []).toOption
      let unit ← (c.compileModule "page" leakSource).toOption
      let tokens ← (Source.tokenize c.vocabulary leakSource).toOption
      let tree ← (Parse.template ⟨c.registries, c.config.fallbackTag⟩ tokens).toOption
      let includer := leakEnvironment.includer Environment.includeLimit
      let ran ← (leakEnvironment.runBody includer unit.main.body leakRows {}).toOption
      let interpreted ← (Interpret.statement c.registries leakEnvironment includer leakRows {} tree).toOption
      return (ran.2, interpreted.2)) = some (⟨""⟩, ⟨"1"⟩) := by
    have letters : leakSource.toList = _ :=
      String.toList_append.trans (congrArg₂ (· ++ ·) String.toList_ofList String.toList_ofList)
    rw [Compiler.build, Registries.build_core]
    simp only [compileModule_letters letters, tokenize_letters letters]
    decide +kernel
  obtain ⟨c, built, outcome⟩ := Option.bind_eq_some_iff.mp outcome
  obtain ⟨unit, compiled, outcome⟩ := Option.bind_eq_some_iff.mp outcome
  obtain ⟨tokens, lexed, outcome⟩ := Option.bind_eq_some_iff.mp outcome
  obtain ⟨tree, parsed, outcome⟩ := Option.bind_eq_some_iff.mp outcome
  obtain ⟨ran, running, outcome⟩ := Option.bind_eq_some_iff.mp outcome
  obtain ⟨interpreted, interpreting, outcome⟩ := Option.bind_eq_some_iff.mp outcome
  rw [toOption_eq_some] at built compiled lexed parsed running interpreting
  obtain ⟨written, meant⟩ := Prod.mk.inj (Option.some.inj outcome)
  refine ⟨c, unit, tokens, tree, built, compiled, lexed, parsed, ?_, ?_⟩
  · rw [running]
    exact congrArg Except.ok written
  · rw [interpreting]
    exact congrArg Except.ok meant

end Compiler

end Templating
