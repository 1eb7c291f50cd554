import Templating.Code.Run
import Templating.Proofs.CoreExtension
import Templating.Proofs.Keyed
import Templating.Proofs.Outcome
import Mathlib.Data.List.Permutation

/-! # Calls of methods

A call with a receiver is answered by a helper of its name, else by the function that every template has, else by the
extension with the smallest name among those that list the name. In which order a host registered the extensions makes no
difference. A core function gives the same as a method and called directly, as long as no helper and no extension comes in
between, and the extension that is registered as `core` lists the methods of `core`.
-/

namespace Templating

/-- What a host tells an environment. -/
inductive Registration where
  | template (name : String) (body : List Code.Stmt)
  | extension (extension : HostExtension)
  | callback (binding : String) (f : HostFunction)
  | helper (name : String) (f : HostFunction)
  | global (name : String) (value : Value)
  | errorTemplate (name : Option String)

/-- The extensions that are registered, in order. -/
def Registration.extensions (registrations : List Registration) : List HostExtension :=
  registrations.filterMap fun
    | extension e => some e
    | _ => none

namespace Environment

variable {env : Environment}

def tell (env : Environment) : Registration → Environment
  | .template name body => env.addTemplate name body
  | .extension e => env.addExtension e
  | .callback binding f => env.bindCallback binding f
  | .helper name f => env.addHelper name f
  | .global name value => env.setGlobal name value
  | .errorTemplate name => { env with errorTemplate := name }

/-- The environment that a host builds for compiled templates that name the functions in `paths`. -/
def ofRegistrations (paths : List (String × HostFunction)) (registrations : List Registration) : Environment :=
  registrations.foldl tell { paths := paths }

/-- The extension is the one registered under its name, and lists the method. -/
structure Offers (env : Environment) (e : HostExtension) (method : String) : Prop where
  registered : env.extension e.name = .ok e
  listed : method ∈ e.methods

/-- What answers a call with a receiver, which is its first argument. -/
inductive Answers (env : Environment) (name : String) : HostFunction → Prop where
  | helper {f : HostFunction} : env.helpers.lookup name = some f → Answers env name f
  | builtin {b : Builtin} : env.helpers.lookup name = none → b.name = name → Answers env name b.call
  | extension {e : HostExtension} : env.helpers.lookup name = none → (∀ b : Builtin, b.name ≠ name) → env.Offers e name →
      (∀ other, env.Offers other name → e.name ≤ other.name) → Answers env name (e.call name)
  | nothing : env.helpers.lookup name = none → (∀ b : Builtin, b.name ≠ name) → (∀ e, ¬ env.Offers e name) →
      Answers env name fun _ => .error (.unknownFunction name)

theorem extension_eq_ok_iff {name : String} {e : HostExtension} :
    env.extension name = .ok e ↔ env.extensions.lookup name = some e := by
  unfold extension
  cases env.extensions.lookup name <;> simp

/-- The extensions stand under their names, in ascending order. -/
structure Keeps (table : List (String × HostExtension)) : Prop where
  ascending : Ascending table
  named : ∀ entry ∈ table, entry.2.name = entry.1

theorem Keeps.insertByKey {table : List (String × HostExtension)} (keeps : Keeps table) (e : HostExtension) :
    Keeps (insertByKey e.name e table) where
  ascending := keeps.ascending.insertByKey e.name e
  named := by
    intro entry member
    obtain rfl | old := mem_insertByKey member
    · rfl
    · exact keeps.named entry old

theorem extensions_tell (env : Environment) (registration : Registration) :
    (env.tell registration).extensions =
      (Registration.extensions [registration]).foldl (fun table e => insertByKey e.name e table) env.extensions := by
  cases registration <;> rfl

/-- Only the registered extensions, in their order, decide what extensions there are. -/
theorem extensions_ofRegistrations (paths : List (String × HostFunction)) (registrations : List Registration) :
    (ofRegistrations paths registrations).extensions =
      (Registration.extensions registrations).foldl (fun table e => insertByKey e.name e table) [("core", .core)] := by
  unfold ofRegistrations
  suffices general : ∀ env : Environment, (registrations.foldl tell env).extensions =
      (Registration.extensions registrations).foldl (fun table e => insertByKey e.name e table) env.extensions from
    general { paths := paths }
  induction registrations with
  | nil => exact fun _ => rfl
  | cons registration registrations ih =>
      intro env
      rw [List.foldl_cons, ih, extensions_tell, ← List.foldl_append, Registration.extensions, Registration.extensions,
        Registration.extensions, ← List.filterMap_append, List.singleton_append]

theorem paths_ofRegistrations (paths : List (String × HostFunction)) (registrations : List Registration) :
    (ofRegistrations paths registrations).paths = paths := by
  unfold ofRegistrations
  suffices general : ∀ env : Environment, (registrations.foldl tell env).paths = env.paths from general { paths := paths }
  induction registrations with
  | nil => exact fun _ => rfl
  | cons registration registrations ih =>
      intro env
      rw [List.foldl_cons, ih]
      cases registration <;> rfl

theorem keeps_ofRegistrations (paths : List (String × HostFunction)) (registrations : List Registration) :
    Keeps (ofRegistrations paths registrations).extensions := by
  rw [extensions_ofRegistrations]
  induction Registration.extensions registrations using List.reverseRecOn with
  | nil => exact ⟨List.pairwise_singleton _ _, by simp [HostExtension.core]⟩
  | append_singleton front last ih =>
      rw [List.foldl_append]
      exact ih.insertByKey last

theorem extensions_perm {paths others : List (String × HostFunction)} {left right : List Registration}
    (same : (Registration.extensions left).Perm (Registration.extensions right))
    (apart : ((Registration.extensions left).map HostExtension.name).Nodup) :
    (ofRegistrations paths left).extensions = (ofRegistrations others right).extensions := by
  rw [extensions_ofRegistrations, extensions_ofRegistrations]
  apply same.foldl_eq'
  intro e first other second table
  by_cases equal : e.name = other.name
  · rw [List.inj_on_of_nodup_map apart first second equal]
  · exact insertByKey_comm (Ne.symm equal) other e table

theorem extension_core {paths : List (String × HostFunction)} {registrations : List Registration}
    (kept : ∀ e ∈ Registration.extensions registrations, e.name ≠ "core") :
    (ofRegistrations paths registrations).extension "core" = .ok .core := by
  rw [extension_eq_ok_iff, extensions_ofRegistrations]
  generalize Registration.extensions registrations = extensions at kept ⊢
  induction extensions using List.reverseRecOn with
  | nil => rfl
  | append_singleton front last ih =>
      obtain ⟨earlier, other⟩ := List.forall_mem_append.mp kept
      rw [List.foldl_append, List.foldl_cons, List.foldl_nil, lookup_insertByKey,
        if_neg (other last List.mem_cons_self).symm]
      exact ih earlier

theorem offers_iff (keeps : Keeps env.extensions) {e : HostExtension} {name : String} :
    env.Offers e name ↔ (e.name, e) ∈ env.extensions ∧ name ∈ e.methods := by
  rw [← keeps.ascending.lookup_eq_some_iff, ← extension_eq_ok_iff]
  exact ⟨fun offers => ⟨offers.1, offers.2⟩, fun offers => ⟨offers.1, offers.2⟩⟩

theorem methodOwner?_eq_some (keeps : Keeps env.extensions) {e : HostExtension} {name : String}
    (owner : env.methodOwner? name = some e) :
    env.Offers e name ∧ ∀ other, env.Offers other name → e.name ≤ other.name := by
  obtain ⟨⟨key, owned⟩, found, rfl⟩ := Option.map_eq_some_iff.mp owner
  obtain ⟨lists, front, behind, split, missing⟩ := List.find?_eq_some_iff_append.mp found
  have member := List.mem_of_find?_eq_some found
  obtain rfl : owned.name = key := keeps.named _ member
  refine ⟨(offers_iff keeps).mpr ⟨member, by simpa using lists⟩, fun other offers => ?_⟩
  obtain ⟨among, listed⟩ := (offers_iff keeps).mp offers
  have ascending := keeps.ascending
  rw [split] at among ascending
  obtain before | rest := List.mem_append.mp among
  · have unlisted := missing _ before
    simp [listed] at unlisted
  · obtain here | after := List.mem_cons.mp rest
    · exact (congrArg Prod.fst here).ge
    · exact ((List.pairwise_cons.mp (List.pairwise_append.mp ascending).2.1).1 _ after).le

theorem methodOwner?_eq_none (keeps : Keeps env.extensions) {name : String} (ownerless : env.methodOwner? name = none)
    (e : HostExtension) : ¬ env.Offers e name := by
  intro offers
  obtain ⟨member, listed⟩ := (offers_iff keeps).mp offers
  have missing := List.find?_eq_none.mp (Option.map_eq_none_iff.mp ownerless) _ member
  simp [listed] at missing

theorem find?_name (b : Builtin) : Builtin.find? b.name = some b := by
  cases b <;> rfl

theorem find?_eq_none {name : String} (missing : Builtin.find? name = none) (b : Builtin) : b.name ≠ name := by
  rintro rfl
  rw [find?_name] at missing
  cases missing

theorem exists_answers (keeps : Keeps env.extensions) (name : String) :
    ∃ f, env.Answers name f ∧ ∀ receiver args, env.callMethod receiver name args = f (receiver :: args) := by
  cases helped : env.helpers.lookup name with
  | some f => exact ⟨f, .helper helped, fun receiver args => by simp only [callMethod, helped]⟩
  | none =>
      cases known : Builtin.find? name with
      | some b =>
          have named : b.name = name := by simpa using List.find?_some known
          exact ⟨b.call, .builtin helped named, fun receiver args => by simp only [callMethod, helped, known]⟩
      | none =>
          cases owner : env.methodOwner? name with
          | some e =>
              obtain ⟨offers, least⟩ := methodOwner?_eq_some keeps owner
              exact ⟨e.call name, .extension helped (find?_eq_none known) offers least,
                fun receiver args => by simp only [callMethod, helped, known, owner]⟩
          | none =>
              exact ⟨_, .nothing helped (find?_eq_none known) (methodOwner?_eq_none keeps owner),
                fun receiver args => by simp only [callMethod, helped, known, owner]⟩

theorem callMethod_congr {other : Environment} {name : String} (extensions : env.extensions = other.extensions)
    (helped : env.helpers.lookup name = other.helpers.lookup name) (receiver : Value) (args : List Value) :
    env.callMethod receiver name args = other.callMethod receiver name args := by
  simp only [callMethod, methodOwner?, extensions, helped]

/-- Compiled templates name the functions that every template has by their paths. -/
def Links (paths : List (String × HostFunction)) : Prop :=
  ∀ b : Builtin, paths.lookup ("functions::" ++ b.name) = some b.call

theorem links_standard : Links ({} : Environment).paths := by
  intro b
  cases b <;> rfl

theorem callMethod_builtin (links : Links env.paths) {b : Builtin} (helperless : env.helpers.lookup b.name = none)
    (receiver : Value) (args : List Value) :
    env.callMethod receiver b.name args = env.callPath ("functions::" ++ b.name) (receiver :: args) := by
  simp only [callMethod, helperless, find?_name, callPath, links b]

theorem callMethod_offered (keeps : Keeps env.extensions) {name : String} (helperless : env.helpers.lookup name = none)
    (strange : ∀ b : Builtin, b.name ≠ name) {e : HostExtension} (offers : env.Offers e name)
    (alone : ∀ other, env.Offers other name → other.name = e.name) (receiver : Value) (args : List Value) :
    env.callMethod receiver name args = e.call name (receiver :: args) := by
  obtain ⟨f, answers, same⟩ := exists_answers keeps name
  rw [same]
  cases answers with
  | helper helped => cases helperless.symm.trans helped
  | builtin _ named => exact absurd named (strange _)
  | nothing _ _ ownerless => exact absurd offers (ownerless e)
  | @extension other _ _ others _ =>
      have registered := others.registered
      rw [alone other others, offers.registered] at registered
      rw [Except.ok.inj registered]

end Environment

/-- The core functions are the functions that every template has, and the methods of the core extension. -/
theorem Core.function_cases {function : TemplateFunction} (core : function ∈ Core.functions) :
    (∃ b : Builtin, function.name = b.name ∧ function.invocation = .simple ("functions::" ++ b.name)) ∨
      ∃ m : CoreMethod, function.name = m.name ∧ function.invocation = .method "core" m.name := by
  simp only [Core.functions, List.mem_cons, List.not_mem_nil, or_false] at core
  rcases core with rfl | rfl | rfl | rfl | rfl | rfl | rfl | rfl | rfl
  · exact .inl ⟨.length, rfl, rfl⟩
  · exact .inl ⟨.upper, rfl, rfl⟩
  · exact .inl ⟨.lower, rfl, rfl⟩
  · exact .inl ⟨.join, rfl, rfl⟩
  · exact .inl ⟨.range, rfl, rfl⟩
  · exact .inl ⟨.abs, rfl, rfl⟩
  · exact .inl ⟨.raw, rfl, rfl⟩
  · exact .inr ⟨.replace, rfl, rfl⟩
  · exact .inr ⟨.split, rfl, rfl⟩

theorem CoreMethod.name_ne (m : CoreMethod) (b : Builtin) : b.name ≠ m.name := by
  cases m <;> cases b <;> decide

namespace Compile

open Environment

variable {env : Environment} {r : Registries} {function : TemplateFunction}

/-- What a core function gives for values is what it gives as a method of the first of them. -/
theorem call_alike (links : Links env.paths) (keeps : Keeps env.extensions) {id : Nat}
    (registered : r.functions.get? id = some function) (core : function ∈ Core.functions)
    (helperless : env.helpers.lookup function.name = none) (alone : ∀ e, env.Offers e function.name → e.name = "core")
    (offered : function.invocation = .method "core" function.name → ∃ e, env.Offers e function.name)
    (receiver : Code.Expr) (args : List Code.Expr) (line : Nat) :
    ∃ direct, call r (.resolved id) (receiver :: args) line = .ok direct ∧
      ∀ context, Code.eval env context (.callMethod receiver function.name args) = Code.eval env context direct := by
  obtain ⟨b, named, invoked⟩ | ⟨m, named, invoked⟩ := Core.function_cases core
  · refine ⟨.callPath ("functions::" ++ b.name) (receiver :: args), ?_, fun context => ?_⟩
    · simp only [call, registered, invoked]
    · rw [named] at helperless ⊢
      simp only [Code.eval, Code.evalAll, callMethod_builtin links helperless, bind_assoc, pure_bind]
  · rw [← named] at invoked
    obtain ⟨e, offers⟩ := offered invoked
    have onCore : env.extension "core" = .ok e := alone e offers ▸ offers.registered
    refine ⟨.callExtension "core" function.name (receiver :: args), ?_, fun context => ?_⟩
    · simp only [call, registered, invoked]
    · have strange : ∀ b : Builtin, b.name ≠ function.name := named ▸ m.name_ne
      have apart : ∀ other, env.Offers other function.name → other.name = e.name := fun other others =>
        (alone other others).trans (alone e offers).symm
      simp only [Code.eval, Code.evalAll, onCore, callMethod_offered keeps helperless strange offers apart, bind_assoc,
        pure_bind, ok_bind]

/-- The direct call of a core function and the call as a method of its first argument are compiled to expressions with
the same value. -/
theorem expression_alike (links : Links env.paths) (keeps : Keeps env.extensions) {id : Nat}
    (registered : r.functions.get? id = some function) (core : function ∈ Core.functions)
    (helperless : env.helpers.lookup function.name = none) (alone : ∀ e, env.Offers e function.name → e.name = "core")
    (offered : function.invocation = .method "core" function.name → ∃ e, env.Offers e function.name)
    {callee : Callee} (called : callee = .resolved id ∨ callee = .named function.name) {receiver : Tree} {args : List Tree}
    {line : Nat} {notes : Annotations} {direct : Code.Expr}
    (compiled : expression r (.call (.resolved id) none (receiver :: args) line notes) = .ok direct) :
    ∃ method, expression r (.call callee (some receiver) args line notes) = .ok method ∧
      ∀ context, Code.eval env context method = Code.eval env context direct := by
  have named : methodName r callee line = .ok function.name := by
    obtain rfl | rfl := called
    · simp only [methodName, registered]
    · rfl
  simp only [expression, expressions, bind_eq_ok, pure_eq_ok] at compiled
  obtain ⟨_, ⟨code, first, codes, rest, ⟨⟩⟩, emitted⟩ := compiled
  obtain ⟨_, same, alike⟩ := call_alike links keeps registered core helperless alone offered code codes line
  obtain rfl := Except.ok.inj (emitted.symm.trans same)
  refine ⟨.callMethod code function.name codes, ?_, alike⟩
  simp only [expression, rest, first, named, ok_bind, pure_eq_ok]

end Compile

namespace Environment

/-- Who answers a call with a receiver is settled by name: a helper, else the function that every template has, else the
least extension that lists the name. The order in which extensions with different names were registered does not matter.
A core function is worth the same as a method and called directly, unless a helper or another extension has its name, or
the extension registered as `core` does not list it. -/
theorem method_calls {paths : List (String × HostFunction)} (links : Links paths) (registrations : List Registration)
    {env : Environment} (built : env = ofRegistrations paths registrations) :
    (∀ name, ∃ f, env.Answers name f ∧ ∀ receiver args, env.callMethod receiver name args = f (receiver :: args)) ∧
    (∀ (others : List (String × HostFunction)) (reordered : List Registration),
      (Registration.extensions registrations).Perm (Registration.extensions reordered) →
      ((Registration.extensions registrations).map HostExtension.name).Nodup →
      (∀ name, env.helpers.lookup name = (ofRegistrations others reordered).helpers.lookup name) →
      ∀ receiver name args,
        env.callMethod receiver name args = (ofRegistrations others reordered).callMethod receiver name args) ∧
    (∀ (r : Registries) (id : Nat) (function : TemplateFunction), r.functions.get? id = some function →
      function ∈ Core.functions → env.helpers.lookup function.name = none →
      (∀ e, env.Offers e function.name → e.name = "core") →
      (function.invocation = .method "core" function.name → ∃ e, env.Offers e function.name) →
      ∀ callee receiver args line notes direct, (callee = .resolved id ∨ callee = .named function.name) →
        Compile.expression r (.call (.resolved id) none (receiver :: args) line notes) = .ok direct →
        ∃ method, Compile.expression r (.call callee (some receiver) args line notes) = .ok method ∧
          ∀ context, Code.eval env context method = Code.eval env context direct) ∧
    ((∀ e ∈ Registration.extensions registrations, e.name ≠ "core") → ∀ m : CoreMethod, env.Offers .core m.name) := by
  have keeps : Keeps env.extensions := built ▸ keeps_ofRegistrations paths registrations
  have linked : Links env.paths := by
    rw [built, paths_ofRegistrations]
    exact links
  refine ⟨exists_answers keeps, ?_, ?_, ?_⟩
  · intro others reordered same apart helped receiver name args
    have extensions : env.extensions = (ofRegistrations others reordered).extensions := built ▸ extensions_perm same apart
    exact callMethod_congr extensions (helped name) receiver args
  · intro r id function registered core helperless alone offered callee receiver args line notes direct called compiled
    exact Compile.expression_alike linked keeps registered core helperless alone offered called compiled
  · intro kept m
    exact ⟨built ▸ extension_core kept, by cases m <;> decide⟩

/-- An extension of a host that answers its methods with their names, and knows no others. -/
def naming (name : String) (methods : List String) : HostExtension where
  name := name
  methods := methods
  call method _ :=
    if method ∈ methods then .ok (.string (name ++ "." ++ method)) else .error (.unknownFunction (name ++ "." ++ method))

theorem trim_answered_alike :
    let env := ofRegistrations ({} : Environment).paths
      [.extension (naming "beta" ["trim"]), .extension (naming "alpha" ["trim"])]
    let reversed := ofRegistrations ({} : Environment).paths
      [.extension (naming "alpha" ["trim"]), .extension (naming "beta" ["trim"])]
    let text : Tree := .data (.string "a-b") 1 {}
    let separator : Tree := .data (.string "-") 1 {}
    Links ({} : Environment).paths ∧
    env.callMethod (.int 1) "trim" [] = reversed.callMethod (.int 1) "trim" [] ∧
    (∃ direct method,
      Compile.expression Core.registries (.call (.resolved 8) none [text, separator] 1 {}) = .ok direct ∧
      Compile.expression Core.registries (.call (.named "split") (some text) [separator] 1 {}) = .ok method ∧
      ∀ context, Code.eval env context method = Code.eval env context direct) := by
  intro env reversed text separator
  obtain ⟨-, reordered, agree, cored⟩ := method_calls links_standard
    [.extension (naming "beta" ["trim"]), .extension (naming "alpha" ["trim"])] (rfl : env = _)
  have same := reordered ({} : Environment).paths
    [.extension (naming "alpha" ["trim"]), .extension (naming "beta" ["trim"])] (.swap ..) (by decide) (fun _ => rfl)
  have alone : ∀ e, env.Offers e "split" → e.name = "core" := by
    intro e offers
    obtain ⟨member, listed⟩ := (offers_iff (keeps_ofRegistrations _ _)).mp offers
    have table : env.extensions = [("alpha", naming "alpha" ["trim"]), ("beta", naming "beta" ["trim"]), ("core", .core)] := rfl
    rw [table] at member
    simp only [List.mem_cons, List.not_mem_nil, or_false, Prod.mk.injEq] at member
    obtain ⟨-, rfl⟩ | ⟨-, rfl⟩ | ⟨named, -⟩ := member
    · exact absurd listed (by decide)
    · exact absurd listed (by decide)
    · exact named
  obtain ⟨method, compiled, alike⟩ := agree Core.registries 8 (Core.method "split") rfl (by simp [Core.functions]) rfl alone
    (fun _ => ⟨_, cored (by decide) .split⟩) (.named "split") text [separator] 1 {} _ (.inr rfl) rfl
  exact ⟨links_standard, same (.int 1) "trim" [], _, method, rfl, compiled, alike⟩

/-- A host that registers an extension without methods as `core`: nothing has the name `replace`, yet the direct call asks
the extension, and the call with a receiver does not. -/
theorem replacedCore_apart :
    let env := ofRegistrations ({} : Environment).paths [.extension (naming "core" [])]
    let args : List Tree := [.data (.string "-") 1 {}, .data (.string "+") 1 {}]
    Core.registries.functions.get? 7 = some (Core.method "replace") ∧ env.helpers.lookup "replace" = none ∧
    (∀ e, ¬ env.Offers e "replace") ∧
    ((Compile.expression Core.registries (.call (.resolved 7) none (.data (.string "a-b") 1 {} :: args) 1 {})).toOption.map
      (Code.eval env (.ofGlobals []))) = some (.error (.unknownFunction "core.replace")) ∧
    ((Compile.expression Core.registries (.call (.resolved 7) (some (.data (.string "a-b") 1 {})) args 1 {})).toOption.map
      (Code.eval env (.ofGlobals []))) = some (.error (.unknownFunction "replace")) := by
  intro env args
  refine ⟨rfl, rfl, ?_, by rfl, by rfl⟩
  intro e offers
  obtain ⟨member, listed⟩ := (offers_iff (keeps_ofRegistrations _ _)).mp offers
  have table : env.extensions = [("core", naming "core" [])] := rfl
  rw [table, List.mem_singleton] at member
  obtain rfl := congrArg Prod.snd member
  cases listed

end Environment

end Templating
