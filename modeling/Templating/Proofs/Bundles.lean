import Templating.Compiler.Environment
import Templating.Proofs.Keyed
import Templating.Proofs.LineWriting
import Templating.Proofs.SharedCompiler
import Templating.Proofs.UnitNames
import Templating.Render.Rendering
import Mathlib.Data.List.Permutation

/-! # Templates of a bundle

A bundle registers the templates of several sources one after the other, and a later template takes the place of an earlier
one of the same name. The templates of one source have different names, but nothing compares the names of different sources.
So a bundle gives every requested name its own template as long as no source nests a template under a name that another
source has, and otherwise the last template of a name is the one that is rendered.
-/

namespace Templating

namespace Environment

theorem template_addTemplates (env : Environment) (templates : List Code.Template) (name : String) :
    (templates.foldl (fun env t => env.addTemplate t.name t.body) env).template name =
      match templates.reverse.find? (·.name == name) with
      | some template => .ok template.body
      | none => env.template name := by
  induction templates using List.reverseRecOn with
  | nil => rfl
  | append_singleton templates last ih =>
      rw [List.foldl_append, List.foldl_cons, List.foldl_nil, Environment.template, addTemplate, lookup_insertByKey,
        List.reverse_append, List.reverse_singleton, List.singleton_append, List.find?_cons]
      by_cases same : name = last.name
      · rw [if_pos same, same, beq_self_eq_true]
      · rw [if_neg same, beq_eq_false_iff_ne.mpr (Ne.symm same)]
        exact ih

end Environment

namespace Code.Module

theorem map_name_templates (units : List Code.Module) :
    (units.flatMap templates).map Code.Template.name = units.flatMap templateNames := by
  rw [List.map_flatMap]
  rfl

end Code.Module

/-- Among templates with different names, the last one with the name of a template is that template. -/
theorem find?_of_nodup {templates : List Code.Template} (apart : (templates.map Code.Template.name).Nodup)
    {template : Code.Template} (member : template ∈ templates) :
    templates.reverse.find? (·.name == template.name) = some template := by
  cases found : templates.reverse.find? (·.name == template.name) with
  | none =>
      have nowhere := List.find?_eq_none.mp found template (List.mem_reverse.mpr member)
      exact absurd (beq_self_eq_true template.name) nowhere
  | some other =>
      have same : other.name = template.name := by simpa using List.find?_some found
      have among : other ∈ templates := List.mem_reverse.mp (List.mem_of_find?_eq_some found)
      rw [List.inj_on_of_nodup_map apart among member same]

namespace Compiler

/-- The names of a bundle: the requested ones in ascending order. -/
def bundleNames (names : List String) : List String :=
  dropRepeated (sortNames names)

theorem mem_bundleNames {name : String} {names : List String} : name ∈ bundleNames names ↔ name ∈ names := by
  rw [bundleNames, mem_dropRepeated, sortNames, List.mem_mergeSort]

/-- The environment after the registration of compiled sources, the global variables and the error template. -/
def registered (c : Compiler) (units : List Code.Module) (env : Environment) : Environment :=
  let env := units.foldl Environment.addModule env
  let env := c.config.globals.foldl (fun env entry => env.setGlobal entry.1 entry.2.toValue) env
  { env with errorTemplate := c.config.errorTemplate }

section

variable {c : Compiler}

theorem template_registered (c : Compiler) (units : List Code.Module) (env : Environment) (name : String) :
    (c.registered units env).template name =
      match (units.flatMap Code.Module.templates).reverse.find? (·.name == name) with
      | some template => .ok template.body
      | none => env.template name := by
  have globals : ∀ (entries : List (String × Json)) (env : Environment),
      (entries.foldl (fun env entry => env.setGlobal entry.1 entry.2.toValue) env).templates = env.templates := by
    intro entries
    induction entries with
    | nil => exact fun _ => rfl
    | cons entry entries ih => exact fun env => ih (env.setGlobal entry.1 entry.2.toValue)
  have added : units.foldl Environment.addModule env =
      (units.flatMap Code.Module.templates).foldl (fun env t => env.addTemplate t.name t.body) env := by
    rw [List.foldl_flatMap]
    rfl
  have same : (c.registered units env).templates = (units.foldl Environment.addModule env).templates := globals _ _
  rw [← Environment.template_addTemplates, ← added, Environment.template, Environment.template, same]

/-- With a fresh cache a template is compiled to its fresh text, and the cache stays fresh. -/
theorem CacheFresh.compileTemplate (fresh : c.CacheFresh) (name : String) :
    (c.compileTemplate name).1 = c.freshText name ∧ (c.compileTemplate name).2.CacheFresh ∧
      ∃ cache, (c.compileTemplate name).2 = { c with cache := cache } := by
  rw [Compiler.compileTemplate]
  split
  · rename_i text found
    exact ⟨(fresh.lookup found).symm, fresh, c.cache, rfl⟩
  · split
    · rename_i text own
      exact ⟨own.symm, fresh.insert own, _, rfl⟩
    · rename_i e failed
      exact ⟨failed.symm, fresh, c.cache, rfl⟩

/-- With a fresh cache several templates are compiled to their fresh texts. -/
theorem CacheFresh.compileAll (fresh : c.CacheFresh) {names : List String} {compiled : List (String × String)}
    {last : Compiler} (done : c.compileAll names = (.ok compiled, last)) :
    List.Forall₂ (fun name entry => entry.1 = name ∧ c.freshText name = .ok entry.2) names compiled ∧
      ∃ cache, last = { c with cache := cache } := by
  induction names generalizing c compiled with
  | nil =>
      cases done
      exact ⟨.nil, _, rfl⟩
  | cons name names ih =>
      obtain ⟨own, kept, cache, same⟩ := fresh.compileTemplate name
      rw [Compiler.compileAll] at done
      split at done
      · cases done
      · rename_i text next first
        rw [first] at own kept same
        dsimp only at own kept same
        split at done
        · cases done
        · rename_i texts final rest
          cases done
          obtain ⟨each, later, changed⟩ := ih kept rest
          rw [same] at each changed
          exact ⟨.cons ⟨rfl, own.symm⟩ each, later, changed⟩

theorem exists_of_freshText {name text : String} (compiled : c.freshText name = .ok text) :
    ∃ unit, c.fetchModule name = .ok unit ∧ text = unit.text c.config.cacheNamespace := by
  rw [freshText] at compiled
  rw [fetchModule]
  cases fetched : c.loader.fetch name with
  | error e =>
      rw [fetched] at compiled
      cases compiled
  | ok source =>
      rw [fetched] at compiled
      dsimp only at compiled
      rw [compileSource_eq] at compiled
      obtain ⟨unit, done, ⟨⟩⟩ := bind_eq_ok.mp compiled
      exact ⟨unit, done, rfl⟩

/-- A fetched source has its own name, and different names for its templates. -/
theorem fetchModule_names {name : String} {unit : Code.Module} (fetched : c.fetchModule name = .ok unit) :
    unit.main.name = name ∧ unit.templateNames.Nodup := by
  rw [fetchModule] at fetched
  split at fetched
  · rename_i source _
    obtain ⟨arena, -, compiling⟩ := bind_eq_ok.mp fetched
    split at compiling
    · rename_i generated
      cases compiling
      exact Compile.templateNames_nodup generated
    · cases compiling
  · cases fetched

theorem units_of_freshTexts {names : List String} {compiled : List (String × String)}
    (each : List.Forall₂ (fun name entry => entry.1 = name ∧ c.freshText name = .ok entry.2) names compiled) :
    ∃ units, List.Forall₂ (fun name unit => c.fetchModule name = .ok unit) names units ∧
      compiled = units.map fun unit => (unit.main.name, unit.text c.config.cacheNamespace) := by
  induction each with
  | nil => exact ⟨[], .nil, rfl⟩
  | @cons name entry names entries first _ ih =>
      obtain ⟨units, fetched, rfl⟩ := ih
      obtain ⟨unit, own, written⟩ := exists_of_freshText first.2
      refine ⟨unit :: units, .cons own fetched, ?_⟩
      rw [List.map_cons, (fetchModule_names own).1, ← written, ← first.1]

/-- The text of a bundle is made of the compiled sources of its names. -/
theorem units_of_compileBundle (fresh : c.CacheFresh) {names : List String} {text : String}
    (bundled : (c.compileBundle names).1 = .ok text) :
    ∃ units, List.Forall₂ (fun name unit => c.fetchModule name = .ok unit) (bundleNames names) units ∧
      text = c.bundleText (units.map fun unit => (unit.main.name, unit.text c.config.cacheNamespace)) := by
  rw [compileBundle] at bundled
  split at bundled
  · cases bundled
  · split at bundled
    · cases bundled
    · rename_i compiled last done
      cases bundled
      obtain ⟨each, cache, rfl⟩ := fresh.compileAll done
      obtain ⟨units, fetched, rfl⟩ := units_of_freshTexts each
      exact ⟨units, fetched, rfl⟩

/-- The templates of a bundle have different names exactly if no two of its sources share one, and then every requested name
is registered with the template of its own source. Without that the last template of a name counts. -/
theorem compileBundle_templates (fresh : c.CacheFresh) {names : List String} {text : String}
    (bundled : (c.compileBundle names).1 = .ok text) :
    ∃ units : List Code.Module,
      List.Forall₂ (fun name unit => c.fetchModule name = .ok unit ∧ unit.main.name = name) (bundleNames names) units ∧
      text = c.bundleText (units.map fun unit => (unit.main.name, unit.text c.config.cacheNamespace)) ∧
      ((units.flatMap Code.Module.templateNames).Nodup ↔
        units.Pairwise fun unit other => unit.templateNames.Disjoint other.templateNames) ∧
      (∀ env name, (c.registered units env).template name =
        match (units.flatMap Code.Module.templates).reverse.find? (·.name == name) with
        | some template => .ok template.body
        | none => env.template name) ∧
      ((units.flatMap Code.Module.templateNames).Nodup → ∀ env, ∀ name ∈ names, ∃ unit ∈ units,
        c.fetchModule name = .ok unit ∧ unit.main.name = name ∧
          (c.registered units env).template name = .ok unit.main.body) := by
  obtain ⟨units, fetched, written⟩ := units_of_compileBundle fresh bundled
  have apart : ∀ unit ∈ units, unit.templateNames.Nodup := by
    intro unit member
    obtain ⟨name, -, own⟩ := exists_of_mem_forall₂ fetched member
    exact (fetchModule_names own).2
  refine ⟨units, fetched.imp fun name unit own => ⟨own, (fetchModule_names own).1⟩, written, ?_,
    c.template_registered units, ?_⟩
  · rw [List.nodup_flatMap]
    exact and_iff_right apart
  · intro different env name requested
    obtain ⟨unit, member, own⟩ := exists_of_mem_forall₂ fetched.flip (mem_bundleNames.mpr requested)
    obtain ⟨named, -⟩ := fetchModule_names own
    have main : unit.main ∈ units.flatMap Code.Module.templates :=
      List.mem_flatMap.mpr ⟨unit, member, List.mem_cons_self⟩
    refine ⟨unit, member, own, named, ?_⟩
    rw [← Code.Module.map_name_templates] at different
    rw [template_registered, ← named, find?_of_nodup different main]

end

/-- A bundle is the compiled templates of its names if no two of them have one module. -/
theorem compileBundle_of_compileAll {c last : Compiler} {names sorted : List String} {compiled : List (String × String)}
    (requested : bundleNames names = sorted) (apart : c.collision? [] sorted = none)
    (done : c.compileAll sorted = (.ok compiled, last)) : (c.compileBundle names).1 = .ok (last.bundleText compiled) := by
  rw [bundleNames] at requested
  simp only [compileBundle, requested, apart, done]

/-- A page that nests a template, next to another source. -/
def pageWith (nested : String) : Loader :=
  .ofList [("card", "outer"), ("page", "\x7b% template " ++ nested ++ " %\x7dinner\x7b% endtemplate %\x7d")]

theorem rowBundle_templates :
    ∃ c text units, Compiler.build {} (pageWith "row") [] = .ok c ∧ c.CacheFresh ∧
      (c.compileBundle ["page", "card", "page"]).1 = .ok text ∧
      units.flatMap Code.Module.templateNames = ["card", "page", "row"] ∧
      ∃ unit ∈ units, c.fetchModule "card" = .ok unit ∧ unit.main.name = "card" ∧
        (c.registered units {}).template "card" = .ok unit.main.body := by
  have outcome : (do
      let c ← (Compiler.build {} (pageWith "row") []).toOption
      let compiled ← (c.compileAll ["card", "page"]).1.toOption
      let card ← (c.fetchModule "card").toOption
      let page ← (c.fetchModule "page").toOption
      return ((c.collision? [] ["card", "page"]).isNone, card.templateNames, page.templateNames)) =
        some (true, ["card"], ["page", "row"]) := by
    rw [build_default]
    decide +kernel
  obtain ⟨c, built, outcome⟩ := Option.bind_eq_some_iff.mp outcome
  obtain ⟨compiled, done, outcome⟩ := Option.bind_eq_some_iff.mp outcome
  obtain ⟨card, cardFetched, outcome⟩ := Option.bind_eq_some_iff.mp outcome
  obtain ⟨page, pageFetched, outcome⟩ := Option.bind_eq_some_iff.mp outcome
  rw [toOption_eq_some] at built done cardFetched pageFetched
  obtain ⟨apart, cardNames, pageNames⟩ :
      c.collision? [] ["card", "page"] = none ∧ card.templateNames = ["card"] ∧ page.templateNames = ["page", "row"] := by
    simpa using outcome
  have fresh := CacheFresh.of_empty (start_of_build built).1
  have requested : bundleNames ["page", "card", "page"] = ["card", "page"] := by cbv
  have bundled := compileBundle_of_compileAll requested apart (Prod.ext done rfl)
  obtain ⟨units, fetched, -, -, -, resolves⟩ := compileBundle_templates fresh bundled
  rw [requested] at fetched
  obtain _ | ⟨⟨first, -⟩, _ | ⟨⟨second, -⟩, _ | _⟩⟩ := fetched
  cases cardFetched.symm.trans first
  cases pageFetched.symm.trans second
  have names : [card, page].flatMap Code.Module.templateNames = ["card", "page", "row"] := by
    simp [cardNames, pageNames]
  refine ⟨c, _, [card, page], built, fresh, bundled, names, ?_⟩
  exact resolves (by rw [names]; decide) {} "card" (by simp)

/-- A bundle of two sources in which the template of one of them is lost: under its name the other one's is rendered. -/
theorem cardBundle_overwritten :
    ∃ c text card page, Compiler.build {} (pageWith "card") [] = .ok c ∧ (c.compileBundle ["card", "page"]).1 = .ok text ∧
      c.fetchModule "card" = .ok card ∧ c.fetchModule "page" = .ok page ∧
      ¬ ([card, page].flatMap Code.Module.templateNames).Nodup ∧
      (c.registered [card] {}).render "card" [] = .ok "outer" ∧
      (c.registered [card, page] {}).render "card" [] = .ok "inner" := by
  have outcome : (do
      let c ← (Compiler.build {} (pageWith "card") []).toOption
      let compiled ← (c.compileAll ["card", "page"]).1.toOption
      let card ← (c.fetchModule "card").toOption
      let page ← (c.fetchModule "page").toOption
      let alone ← ((c.registered [card] {}).render "card" []).toOption
      let together ← ((c.registered [card, page] {}).render "card" []).toOption
      return ((c.collision? [] ["card", "page"]).isNone, card.templateNames, page.templateNames, alone, together)) =
        some (true, ["card"], ["page", "card"], "outer", "inner") := by
    rw [build_default]
    decide +kernel
  obtain ⟨c, built, outcome⟩ := Option.bind_eq_some_iff.mp outcome
  obtain ⟨compiled, done, outcome⟩ := Option.bind_eq_some_iff.mp outcome
  obtain ⟨card, cardFetched, outcome⟩ := Option.bind_eq_some_iff.mp outcome
  obtain ⟨page, pageFetched, outcome⟩ := Option.bind_eq_some_iff.mp outcome
  obtain ⟨alone, own, outcome⟩ := Option.bind_eq_some_iff.mp outcome
  obtain ⟨together, other, outcome⟩ := Option.bind_eq_some_iff.mp outcome
  rw [toOption_eq_some] at built done cardFetched pageFetched own other
  obtain ⟨apart, cardNames, pageNames, rfl, rfl⟩ : c.collision? [] ["card", "page"] = none ∧
      card.templateNames = ["card"] ∧ page.templateNames = ["page", "card"] ∧ alone = "outer" ∧ together = "inner" := by
    simpa using outcome
  have requested : bundleNames ["card", "page"] = ["card", "page"] := by cbv
  refine ⟨c, _, card, page, built, compileBundle_of_compileAll requested apart (Prod.ext done rfl), cardFetched, pageFetched,
    ?_, own, other⟩
  simp [cardNames, pageNames]

end Compiler

end Templating
