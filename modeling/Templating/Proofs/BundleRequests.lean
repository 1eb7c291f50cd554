import Templating.Proofs.Bundles
import Templating.Proofs.ModuleLocals

/-! # Requests for bundles

A bundle is requested by a list of names, and depends on nothing but which names are in it. The names are put in order and
each is kept once before anything else happens. Two names whose modules would have one name are noticed there, so such a
request is refused whatever the templates are. Otherwise the modules stand in the order of their templates' names, and each
line of the registration finds the one module it names. The texts may come from the cache or from calls that overlap.
-/

namespace Templating

namespace Code

/-- A name of lower-case letters, digits and underscores that does not start with a digit. -/
def IsModuleName (name : String) : Prop :=
  ∃ first more, name.toList = first :: more ∧ first.isDigit = false ∧
    ∀ c ∈ first :: more, c.isLower = true ∨ c.isDigit = true ∨ c = '_'

theorem lower_or_digit_toLower {c : Char} (known : c.isAlphanum = true) :
    c.toLower.isLower = true ∨ c.toLower.isDigit = true := by
  unfold Char.toLower
  split
  · rename_i upper
    have range : 65 ≤ c.toNat ∧ c.toNat ≤ 90 := upper
    left
    simp only [Char.isLower, UInt32.le_iff_toNat_le]
    simp
    omega
  · rename_i other
    obtain alpha | digit := Bool.or_eq_true_iff.mp known
    · obtain upper | lower := Bool.or_eq_true_iff.mp alpha
      · exact absurd (by simpa [Char.isUpper] using upper) other
      · exact .inl lower
    · exact .inr digit

theorem identifierChar_plain (c : Char) :
    (identifierChar c).isLower = true ∨ (identifierChar c).isDigit = true ∨ identifierChar c = '_' := by
  unfold identifierChar
  split
  · rename_i known
    exact (lower_or_digit_toLower known).imp_right .inl
  · exact .inr (.inr rfl)

theorem identifier_isModuleName (text : String) : IsModuleName (identifier text) := by
  have each : ∀ c ∈ text.toList.map identifierChar, c.isLower = true ∨ c.isDigit = true ∨ c = '_' := by
    intro c member
    obtain ⟨original, -, rfl⟩ := List.mem_map.mp member
    exact identifierChar_plain original
  unfold identifier
  split
  · exact ⟨'_', [], rfl, rfl, List.forall_mem_singleton.mpr (.inr (.inr rfl))⟩
  · rename_i first more characters
    rw [characters] at each
    split
    · rename_i digit
      exact ⟨'_', first :: more, String.toList_ofList, rfl, List.forall_mem_cons.mpr ⟨.inr (.inr rfl), each⟩⟩
    · rename_i noDigit
      exact ⟨first, more, String.toList_ofList, Bool.eq_false_iff.mpr noDigit, each⟩

theorem moduleName_isModuleName (namespaceName name : String) : IsModuleName (moduleName namespaceName name) := by
  obtain ⟨first, more, characters, noDigit, each⟩ := identifier_isModuleName namespaceName
  obtain ⟨next, others, rest, -, further⟩ := identifier_isModuleName name
  refine ⟨first, more ++ '_' :: next :: others, ?_, noDigit, ?_⟩
  · simp [moduleName, characters, rest]
  · rw [← List.cons_append]
    exact List.forall_mem_append.mpr ⟨each, List.forall_mem_cons.mpr ⟨.inr (.inr rfl), further⟩⟩

/-- A text that holds a module of a name, with the attributes of modules in front of it. -/
def DeclaresModule (name text : String) : Prop :=
  ∃ rest, text = "#[allow(unused_mut, unused_variables, unused_imports, unused_parens, "
    ++ "non_camel_case_types, clippy::all)]\n" ++ ("pub mod " ++ name ++ " \x7b\n" ++ rest)

theorem exists_text_applyAll (buffer : Buffer) (edits : List Edit) :
    ∃ rest, (buffer.applyAll edits).text = buffer.text ++ rest := by
  induction edits generalizing buffer with
  | nil => exact ⟨"", String.append_empty.symm⟩
  | cons edit edits ih =>
      obtain ⟨rest, later⟩ := ih (buffer.apply edit)
      have first : ∃ piece, (buffer.apply edit).text = buffer.text ++ piece := by
        cases edit with
        | line text =>
            exact ⟨Buffer.indentation buffer.level ++ text ++ "\n", by simp [Buffer.apply, String.append_assoc]⟩
        | blank => exact ⟨"\n", rfl⟩
        | raw text => exact ⟨text, rfl⟩
        | indent | outdent => exact ⟨"", String.append_empty.symm⟩
      obtain ⟨piece, written⟩ := first
      refine ⟨piece ++ rest, ?_⟩
      rw [Buffer.applyAll, List.foldl_cons, ← Buffer.applyAll, later, written, String.append_assoc]

theorem text_declaresModule (namespaceName : String) (unit : Module) :
    DeclaresModule (moduleName namespaceName unit.main.name) (unit.text namespaceName) := by
  rw [Module.text, Module.edits, moduleEdits, braced, List.cons_append, Buffer.applyAll, List.foldl_cons,
    List.foldl_cons, ← Buffer.applyAll]
  obtain ⟨rest, written⟩ := exists_text_applyAll _ _
  have outermost : Buffer.indentation 0 = "" := rfl
  refine ⟨rest, written.trans ?_⟩
  simp [Buffer.apply, outermost, String.append_assoc]

end Code

namespace Compiler

section

variable {c : Compiler}

theorem bundleNames_ascending (names : List String) : (bundleNames names).Pairwise (· < ·) :=
  (pairwise_dropRepeated (fun _ _ => le_antisymm) (sortNames_ordered names)).imp fun order => lt_of_le_of_ne order.1 order.2

theorem bundleNames_congr {names others : List String} (same : ∀ name, name ∈ others ↔ name ∈ names) :
    bundleNames others = bundleNames names :=
  (bundleNames_ascending others).eq_of_mem_iff (bundleNames_ascending names) fun name => by
    rw [mem_bundleNames, mem_bundleNames, same]

theorem bundleNames_nodup (names : List String) : (bundleNames names).Nodup :=
  (bundleNames_ascending names).imp ne_of_lt

/-- No collision is found if no two names have one module, and none has the module of an earlier name. -/
theorem collision?_eq_none_iff {earlier : List (String × String)} {names : List String} :
    c.collision? earlier names = none ↔
      (names.map c.moduleName).Nodup ∧ ∀ name ∈ names, earlier.lookup (c.moduleName name) = none := by
  induction names generalizing earlier with
  | nil => simp [collision?]
  | cons name names ih =>
      rw [collision?]
      split
      · rename_i other taken
        refine ⟨nofun, fun absent => ?_⟩
        rw [absent.2 name List.mem_cons_self] at taken
        cases taken
      · rename_i free
        rw [ih, List.map_cons, List.nodup_cons, List.forall_mem_cons, and_iff_right free]
        have apart : (∀ later ∈ names, List.lookup (c.moduleName later) ((c.moduleName name, name) :: earlier) = none) ↔
            c.moduleName name ∉ names.map c.moduleName ∧
              ∀ later ∈ names, earlier.lookup (c.moduleName later) = none := by
          have one (m : String) : List.lookup m ((c.moduleName name, name) :: earlier) = none ↔
              m ≠ c.moduleName name ∧ earlier.lookup m = none := by
            rw [List.lookup_cons]
            split <;> simp_all
          simp only [one, List.mem_map, not_exists, not_and]
          exact forall₂_and
        rw [apart]
        tauto

theorem code_of_collision? {earlier : List (String × String)} {names : List String} {e : TemplateError}
    (found : c.collision? earlier names = some e) : e.code = .identifierCollision := by
  induction names generalizing earlier with
  | nil => cases found
  | cons name names ih =>
      rw [collision?] at found
      split at found
      · cases found
        rfl
      · exact ih found

/-- A request that is refused before anything is fetched, compiled or kept: with the same configuration it is refused
whatever the templates are and whatever is in the cache. -/
def RefusesAtOnce (c : Compiler) (names : List String) (e : TemplateError) : Prop :=
  ∀ other : Compiler, other.config = c.config → other.compileBundle names = (.error e, other)

theorem collision?_congr {other : Compiler} (same : other.config = c.config) (earlier : List (String × String))
    (names : List String) : other.collision? earlier names = c.collision? earlier names := by
  induction names generalizing earlier with
  | nil => rfl
  | cons name names ih => simp only [collision?, moduleName, same, ih]

theorem refusesAtOnce_of_collision? {names : List String} {e : TemplateError}
    (found : c.collision? [] (bundleNames names) = some e) : c.RefusesAtOnce names e := by
  intro other same
  rw [← collision?_congr same] at found
  rw [compileBundle, ← bundleNames, found]

theorem compileAll_of_kept {names : List String} (kept : ∀ name ∈ names, (c.cache.lookup name).isSome = true) :
    ∃ compiled, c.compileAll names = (.ok compiled, c) := by
  induction names with
  | nil => exact ⟨[], rfl⟩
  | cons name names ih =>
      obtain ⟨own, others⟩ := List.forall_mem_cons.mp kept
      obtain ⟨text, found⟩ := Option.isSome_iff_exists.mp own
      obtain ⟨compiled, done⟩ := ih others
      exact ⟨(name, text) :: compiled, by simp only [compileAll, compileTemplate, found, done]⟩

theorem clash_iff_refusesAtOnce (names : List String) :
    (∃ a ∈ names, ∃ b ∈ names, a ≠ b ∧ c.moduleName a = c.moduleName b) ↔
      ∃ e, e.code = .identifierCollision ∧ c.RefusesAtOnce names e := by
  have found : (∃ e, c.collision? [] (bundleNames names) = some e) ↔
      ∃ a ∈ names, ∃ b ∈ names, a ≠ b ∧ c.moduleName a = c.moduleName b := by
    rw [← Option.isSome_iff_exists, ← Option.ne_none_iff_isSome, Ne, collision?_eq_none_iff,
      List.nodup_map_iff_inj_on (bundleNames_nodup names)]
    simp only [List.lookup_nil, implies_true, and_true, mem_bundleNames]
    push Not
    exact ⟨fun ⟨a, one, b, two, same, differ⟩ => ⟨a, one, b, two, differ, same⟩,
      fun ⟨a, one, b, two, differ, same⟩ => ⟨a, one, b, two, same, differ⟩⟩
  rw [← found]
  constructor
  · rintro ⟨e, clash⟩
    exact ⟨e, code_of_collision? clash, refusesAtOnce_of_collision? clash⟩
  · rintro ⟨e, -, refused⟩
    -- Where every template is kept, only a clash is left as a reason to refuse.
    let known : Compiler := { c with cache := (bundleNames names).map fun name => (name, "") }
    have kept : ∀ name ∈ bundleNames names, (known.cache.lookup name).isSome = true := by
      intro name member
      exact List.lookup_isSome_iff.mpr ⟨(name, ""), List.mem_map_of_mem member, beq_self_eq_true name⟩
    obtain ⟨compiled, done⟩ := compileAll_of_kept kept
    have same : known.config = c.config := rfl
    have outcome := refused known same
    rw [compileBundle, ← bundleNames, collision?_congr same] at outcome
    cases clash : c.collision? [] (bundleNames names) with
    | some e => exact ⟨e, rfl⟩
    | none =>
        rw [clash] at outcome
        simp only [done] at outcome
        cases outcome

/-- With a fresh cache templates are compiled to their fresh texts, whatever is in the cache. -/
theorem CacheFresh.compileAll_eq (fresh : c.CacheFresh) {names : List String} {compiled : List (String × String)}
    (each : List.Forall₂ (fun name entry => entry.1 = name ∧ c.freshText name = .ok entry.2) names compiled) :
    ∃ cache, c.compileAll names = (.ok compiled, { c with cache := cache }) := by
  induction names generalizing c compiled with
  | nil =>
      cases each
      exact ⟨c.cache, rfl⟩
  | cons name names ih =>
      obtain _ | @⟨_, entry, _, _, ⟨named, written⟩, others⟩ := each
      obtain ⟨own, kept, cache, same⟩ := fresh.compileTemplate name
      rw [same] at kept
      obtain ⟨later, done⟩ := ih kept others
      have first : c.compileTemplate name = (.ok entry.2, { c with cache := cache }) := Prod.ext (own.trans written) same
      refine ⟨later, ?_⟩
      subst named
      simp only [Compiler.compileAll, first, done]

theorem freshText_of_fetchModule {name : String} {unit : Code.Module} (fetched : c.fetchModule name = .ok unit) :
    c.freshText name = .ok (unit.text c.config.cacheNamespace) := by
  rw [fetchModule] at fetched
  split at fetched
  · rename_i source found
    rw [freshText_of_fetch found, compileSource_eq, fetched]
    rfl
  · cases fetched

/-- Which of some sources the lines of a registration install, each line through the name of a module. -/
def installed (c : Compiler) (units : List Code.Module) (lines : List String) : List Code.Module :=
  lines.flatMap fun line => units.filter fun unit => c.moduleName unit.main.name == line

/-- If the modules of sources have different names, one line for each module installs exactly these sources. -/
theorem installed_modules {units : List Code.Module} (apart : (units.map (c.moduleName ·.main.name)).Nodup) :
    c.installed units (units.map (c.moduleName ·.main.name)) = units := by
  rw [installed, List.flatMap_map]
  induction units with
  | nil => rfl
  | cons first units ih =>
      obtain ⟨absent, others⟩ := List.nodup_cons.mp apart
      have alone : ∀ unit ∈ units, c.moduleName unit.main.name ≠ c.moduleName first.main.name := fun unit member same =>
        absent (List.mem_map.mpr ⟨unit, member, same⟩)
      have own :
          ((first :: units).filter fun unit => c.moduleName unit.main.name == c.moduleName first.main.name) = [first] := by
        refine (List.filter_cons_of_pos (by simp)).trans (congrArg _ ?_)
        exact (List.filter_eq_nil_iff.mpr fun unit member => by simpa using alone unit member)
      have later : ∀ unit ∈ units,
          ((first :: units).filter fun other => c.moduleName other.main.name == c.moduleName unit.main.name) =
            units.filter fun other => c.moduleName other.main.name == c.moduleName unit.main.name := fun unit member =>
        List.filter_cons_of_neg (by simpa using (alone unit member).symm)
      rw [List.flatMap_cons, own, List.flatMap_congr later, ih others]
      rfl

/-- The code of a registration behind the lines that install modules: the global variables and the error template. -/
def settingsText (c : Compiler) : String :=
  String.join (c.config.globals.map fun entry =>
      "    env.set_global(" ++ Text.quote entry.1 ++ ", "
        ++ Code.jsonLiteral "::stencil_runtime::Value" entry.2 ++ ");\n")
    ++ (match c.config.errorTemplate with
      | some name => "    env.set_error_template(Some(" ++ Text.quote name ++ ".to_string()));\n"
      | none => "    env.set_error_template(None);\n")

/-- A text is the bundle of sources for requested names. -/
structure IsBundle (c : Compiler) (names : List String) (units : List Code.Module) (text : String) : Prop where
  /-- Each name has its own source, in the order of the names. -/
  sources : List.Forall₂ (fun name unit => c.fetchModule name = .ok unit ∧ unit.main.name = name) (bundleNames names) units
  /-- No two modules have one name. -/
  apart : ((bundleNames names).map c.moduleName).Nodup
  /-- The text of each source holds the module of its name. -/
  declared : ∀ unit ∈ units, Code.DeclaresModule (c.moduleName unit.main.name) (unit.text c.config.cacheNamespace)
  /-- The text consists of the texts of the sources and a function with one line for each module. -/
  written : text = "// Generated by stencilc. Do not edit.\n\n"
    ++ String.join (units.map fun unit => unit.text c.config.cacheNamespace ++ "\n")
    ++ ("pub fn register(env: &mut ::stencil_runtime::Environment) \x7b\n"
      ++ String.join ((bundleNames names).map fun name =>
        "    env.register_templates(" ++ c.moduleName name ++ "::templates());\n")
      ++ c.settingsText ++ "\x7d\n")
  /-- These lines install the sources, each of them once. -/
  installs : c.installed units ((bundleNames names).map c.moduleName) = units

theorem bundleText_congr {other : Compiler} (same : other.config = c.config) (compiled : List (String × String)) :
    other.bundleText compiled = c.bundleText compiled := by
  unfold bundleText registerText moduleName
  rw [same]

theorem registerText_eq (c : Compiler) (names : List String) :
    c.registerText names = "pub fn register(env: &mut ::stencil_runtime::Environment) \x7b\n"
      ++ String.join (names.map fun name => "    env.register_templates(" ++ c.moduleName name ++ "::templates());\n")
      ++ c.settingsText ++ "\x7d\n" :=
  congrArg (· ++ "\x7d\n") String.append_assoc

theorem bundleText_eq (c : Compiler) (units : List Code.Module) :
    c.bundleText (units.map fun unit => (unit.main.name, unit.text c.config.cacheNamespace)) =
      "// Generated by stencilc. Do not edit.\n\n"
        ++ String.join (units.map fun unit => unit.text c.config.cacheNamespace ++ "\n")
        ++ c.registerText (units.map (·.main.name)) :=
  congrArg₂
    (fun modules names => "// Generated by stencilc. Do not edit.\n\n" ++ String.join modules ++ c.registerText names)
    List.map_map List.map_map

theorem collision?_of_compileBundle {names : List String} {text : String} (bundled : (c.compileBundle names).1 = .ok text) :
    c.collision? [] (bundleNames names) = none := by
  rw [compileBundle, ← bundleNames] at bundled
  split at bundled
  · cases bundled
  · assumption

theorem names_of_sources {names : List String} {units : List Code.Module}
    (sources : List.Forall₂ (fun name unit => c.fetchModule name = .ok unit) names units) :
    units.map (·.main.name) = names := by
  induction sources with
  | nil => rfl
  | cons own _ ih => rw [List.map_cons, ih, (fetchModule_names own).1]

theorem isBundle_of_compileBundle (fresh : c.CacheFresh) {names : List String} {text : String}
    (bundled : (c.compileBundle names).1 = .ok text) : ∃ units, c.IsBundle names units text := by
  obtain ⟨units, fetched, written⟩ := units_of_compileBundle fresh bundled
  have named := names_of_sources fetched
  have apart := (collision?_eq_none_iff.mp (collision?_of_compileBundle bundled)).1
  rw [bundleText_eq, registerText_eq, named] at written
  refine ⟨units, fetched.imp fun name unit own => ⟨own, (fetchModule_names own).1⟩, apart,
    fun unit _ => Code.text_declaresModule _ unit, written, ?_⟩
  rw [← named, List.map_map] at apart ⊢
  exact installed_modules apart

/-- Every request for the same names gives the same bundle, whatever is in the cache. -/
theorem compileBundle_congr (fresh : c.CacheFresh) {names others : List String} {text : String}
    (bundled : (c.compileBundle names).1 = .ok text) (same : ∀ name, name ∈ others ↔ name ∈ names)
    {cache : List (String × String)} (kept : CacheFresh { c with cache := cache }) :
    (compileBundle { c with cache := cache } others).1 = .ok text := by
  obtain ⟨units, fetched, rfl⟩ := units_of_compileBundle fresh bundled
  have apart := collision?_of_compileBundle bundled
  have alike : Compiler.config { c with cache := cache } = c.config := rfl
  rw [← collision?_congr alike] at apart
  have texts : List.Forall₂ (fun name entry => entry.1 = name ∧ freshText { c with cache := cache } name = .ok entry.2)
      (bundleNames names) (units.map fun unit => (unit.main.name, unit.text c.config.cacheNamespace)) :=
    List.forall₂_map_right_iff.mpr (fetched.imp fun name unit own =>
      ⟨(fetchModule_names own).1, freshText_of_fetchModule own⟩)
  obtain ⟨last, done⟩ := kept.compileAll_eq texts
  exact (compileBundle_of_compileAll (bundleNames_congr same) apart done).trans (congrArg _ (bundleText_congr alike _))

/-- What calls for the names of a bundle return, however they overlap with other calls, makes the same bundle. -/
theorem bundleText_of_run (fresh : c.CacheFresh) {names : List String} {text : String}
    (bundled : (c.compileBundle names).1 = .ok text) {log : List Event} {s : Shared} (run : Run ⟨c, []⟩ log s)
    (noPass : ∀ event ∈ log, event.addsPass = false) {compiled : List (String × String)}
    (returned : List.Forall₂ (fun name entry => entry.1 = name ∧ Event.returned name (.ok entry.2) ∈ log)
      (bundleNames names) compiled) : c.bundleText compiled = text := by
  have texts : List.Forall₂ (fun name entry => entry.1 = name ∧ c.freshText name = .ok entry.2)
      (bundleNames names) compiled := by
    refine returned.imp fun name entry own => ⟨own.1, ?_⟩
    obtain ⟨before, after, split⟩ := List.append_of_mem own.2
    have result := run.result fresh split
    rw [afterEvents_of_no_pass] at result
    · exact result.symm
    · exact fun event member => noPass event (split ▸ List.mem_append_left _ member)
  obtain ⟨units, fetched, rfl⟩ := units_of_compileBundle fresh bundled
  obtain ⟨others, sources, rfl⟩ := units_of_freshTexts texts
  have unique : Relator.RightUnique fun name unit => c.fetchModule name = .ok unit := fun _ _ _ one two =>
    Except.ok.inj (one.symm.trans two)
  rw [unique.forall₂ sources fetched]

/-- A bundle depends on which names are requested, and on nothing else. The names of modules are plain, and a request is
refused at once exactly if two of its names have one module. Otherwise the modules stand in the order of the names, each
once, the registration installs exactly them, and every request for the same names gives the same text, whatever is in the
cache and however the compilation of the templates overlaps. -/
theorem compileBundle_of_names (fresh : c.CacheFresh) (names : List String) :
    (∀ name, Code.IsModuleName (c.moduleName name)) ∧
      ((∃ a ∈ names, ∃ b ∈ names, a ≠ b ∧ c.moduleName a = c.moduleName b) ↔
        ∃ e, e.code = .identifierCollision ∧ c.RefusesAtOnce names e) ∧
      (bundleNames names).Pairwise (· < ·) ∧ (∀ name, name ∈ bundleNames names ↔ name ∈ names) ∧
      ∀ text, (c.compileBundle names).1 = .ok text →
        (∃ units, c.IsBundle names units text) ∧
          (∀ others cache, (∀ name, name ∈ others ↔ name ∈ names) → CacheFresh { c with cache := cache } →
            (compileBundle { c with cache := cache } others).1 = .ok text) ∧
          ∀ log s compiled, Run ⟨c, []⟩ log s → (∀ event ∈ log, event.addsPass = false) →
            List.Forall₂ (fun name entry => entry.1 = name ∧ Event.returned name (.ok entry.2) ∈ log)
              (bundleNames names) compiled → c.bundleText compiled = text :=
  ⟨fun name => Code.moduleName_isModuleName _ name, clash_iff_refusesAtOnce names, bundleNames_ascending names,
    fun _ => mem_bundleNames, fun _ bundled =>
      ⟨isBundle_of_compileBundle fresh bundled, fun _ _ same kept => compileBundle_congr fresh bundled same kept,
        fun _ _ _ run noPass returned => bundleText_of_run fresh bundled run noPass returned⟩⟩

end

/-- A request with a repetition, the same names in order, and a request with a clash. -/
theorem repeatedRequest_same :
    ∃ c text, Compiler.build {} (.ofList [("card", "outer"), ("page", "inner")]) [] = .ok c ∧ c.CacheFresh ∧
      (c.compileBundle ["page", "card", "page"]).1 = .ok text ∧ (c.compileBundle ["card", "page"]).1 = .ok text ∧
      ∃ e, e.code = .identifierCollision ∧ c.RefusesAtOnce ["my page", "my-page"] e := by
  have outcome : (do
      let c ← (Compiler.build {} (.ofList [("card", "outer"), ("page", "inner")]) []).toOption
      let compiled ← (c.compileAll ["card", "page"]).1.toOption
      return (c.collision? [] ["card", "page"]).isNone) = some true := by
    rw [build_default]
    decide +kernel
  obtain ⟨c, built, outcome⟩ := Option.bind_eq_some_iff.mp outcome
  obtain ⟨compiled, done, outcome⟩ := Option.bind_eq_some_iff.mp outcome
  rw [toOption_eq_some] at built done
  have apart : c.collision? [] ["card", "page"] = none := by simpa using outcome
  have fresh := CacheFresh.of_empty (start_of_build built).1
  have requested : bundleNames ["page", "card", "page"] = ["card", "page"] := by cbv
  have bundled := compileBundle_of_compileAll requested apart (Prod.ext done rfl)
  obtain ⟨-, -, -, -, others⟩ := compileBundle_of_names fresh ["page", "card", "page"]
  obtain ⟨-, clash, -⟩ := compileBundle_of_names fresh ["my page", "my-page"]
  have alike : Code.identifier "my page" = Code.identifier "my-page" := by decide +kernel
  have same : c.moduleName "my page" = c.moduleName "my-page" :=
    congrArg (Code.identifier c.config.cacheNamespace ++ "_" ++ ·) alike
  refine ⟨c, _, built, fresh, bundled, (others _ bundled).2.1 ["card", "page"] c.cache (by simp) fresh, ?_⟩
  exact clash.mp ⟨"my page", by simp, "my-page", by simp, by decide, same⟩

end Compiler

end Templating
