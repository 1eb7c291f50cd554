import Templating.Proofs.CoreVocabulary
import Templating.Proofs.Outcome

/-! # Calls that share a compiler

Several calls may compile templates with one compiler at the same time. A call looks into the cache, fetches and compiles
the source without holding the cache, and then leaves its text there unless another call was faster. The cache may be
cleared at any moment; a pass is added only while no call is under way.

Whatever the order of these steps, a call returns what a compilation without a cache returns under the passes installed
at that time. The invariant is about the calls as much as about the cache: what a call carries from one step to the next is
fresh, and stays so because no pass comes in between.
-/

namespace Templating.Compiler

/-- Every text in the cache is that of a compilation of its template. -/
def CacheFresh (c : Compiler) : Prop :=
  ∀ entry ∈ c.cache, c.freshText entry.1 = .ok entry.2

/-- Leaves a text in the cache unless there is one already, and gives the one that is there then. -/
def keep (c : Compiler) (name text : String) : String × Compiler :=
  match c.cache.lookup name with
  | some earlier => (earlier, c)
  | none => (text, { c with cache := (name, text) :: c.cache })

/-- How far a call has come. -/
inductive Stage where
  /-- It is about to look into the cache. -/
  | starting
  /-- There was no text in the cache. -/
  | missed
  /-- It has the source. -/
  | fetched (source : String)
  /-- It has a text of its own. -/
  | compiled (text : String)
deriving Repr, DecidableEq

/-- A call that compiles a template. -/
structure Call where
  /-- The name of the template. -/
  name : String
  /-- How far it has come. -/
  stage : Stage := .starting
deriving Repr, DecidableEq

/-- A compiler with the calls that are under way. -/
structure Shared where
  /-- The compiler. -/
  compiler : Compiler
  /-- The calls. -/
  calls : List Call := []

/-- What happens to a shared compiler. -/
inductive Event where
  /-- A call begins. -/
  | called (name : String)
  /-- A call goes on. -/
  | proceeded (name : String)
  /-- A call ends. -/
  | returned (name : String) (result : Except TemplateError String)
  /-- The cache is cleared. -/
  | cleared
  /-- A pass is added. -/
  | passAdded (pass : Pass)

/-- One step of one call, or of the owner of the compiler. The cache is read or written in one step at a time. -/
inductive Step : Shared → Event → Shared → Prop
  | call {c : Compiler} {calls : List Call} (name : String) :
      Step ⟨c, calls⟩ (.called name) ⟨c, calls ++ [{ name := name }]⟩
  | hit {c : Compiler} {before after : List Call} {name text : String} : c.cache.lookup name = some text →
      Step ⟨c, before ++ ⟨name, .starting⟩ :: after⟩ (.returned name (.ok text)) ⟨c, before ++ after⟩
  | miss {c : Compiler} {before after : List Call} {name : String} : c.cache.lookup name = none →
      Step ⟨c, before ++ ⟨name, .starting⟩ :: after⟩ (.proceeded name) ⟨c, before ++ ⟨name, .missed⟩ :: after⟩
  | fetch {c : Compiler} {before after : List Call} {name source : String} : c.loader.fetch name = .ok source →
      Step ⟨c, before ++ ⟨name, .missed⟩ :: after⟩ (.proceeded name) ⟨c, before ++ ⟨name, .fetched source⟩ :: after⟩
  | fetchFails {c : Compiler} {before after : List Call} {name : String} {e : LoaderError} : c.loader.fetch name = .error e →
      Step ⟨c, before ++ ⟨name, .missed⟩ :: after⟩ (.returned name (.error (.loader e))) ⟨c, before ++ after⟩
  | compile {c : Compiler} {before after : List Call} {name source text : String} : c.compileSource name source = .ok text →
      Step ⟨c, before ++ ⟨name, .fetched source⟩ :: after⟩ (.proceeded name) ⟨c, before ++ ⟨name, .compiled text⟩ :: after⟩
  | compileFails {c : Compiler} {before after : List Call} {name source : String} {e : TemplateError} :
      c.compileSource name source = .error e →
      Step ⟨c, before ++ ⟨name, .fetched source⟩ :: after⟩ (.returned name (.error e)) ⟨c, before ++ after⟩
  | insert {c : Compiler} {before after : List Call} {name text : String} :
      Step ⟨c, before ++ ⟨name, .compiled text⟩ :: after⟩ (.returned name (.ok (c.keep name text).1))
        ⟨(c.keep name text).2, before ++ after⟩
  | clear {c : Compiler} {calls : List Call} : Step ⟨c, calls⟩ .cleared ⟨c.clearCache, calls⟩
  -- Adding a pass needs the compiler for itself.
  | addPass {c : Compiler} (pass : Pass) : Step ⟨c, []⟩ (.passAdded pass) ⟨c.addPass pass, []⟩

/-- Steps in any order that the calls allow, with what happens in them. -/
inductive Run (start : Shared) : List Event → Shared → Prop
  | start : Run start [] start
  | step {log : List Event} {event : Event} {now next : Shared} :
      Run start log now → Step now event next → Run start (log ++ [event]) next

/-- The compiler with the pass that an event adds. -/
def Event.install (c : Compiler) : Event → Compiler
  | .passAdded pass => c.addPass pass
  | _ => c

/-- The compiler with the passes that were added. -/
def afterEvents (c : Compiler) (log : List Event) : Compiler :=
  log.foldl Event.install c

/-- Whether an event adds a pass. -/
def Event.addsPass : Event → Bool
  | .passAdded _ => true
  | _ => false

/-- What a call carries is fresh. -/
def Call.Fresh (c : Compiler) (call : Call) : Prop :=
  match call.stage with
  | .starting => True
  | .missed => True
  | .fetched source => c.loader.fetch call.name = .ok source
  | .compiled text => c.freshText call.name = .ok text

/-- What is in the cache and what the calls carry is fresh. -/
structure Shared.Fresh (s : Shared) : Prop where
  cache : s.compiler.CacheFresh
  calls : ∀ call ∈ s.calls, call.Fresh s.compiler

section

variable {c : Compiler} {s next : Shared} {event : Event} {name text : String} {before after : List Call} {call : Call}

theorem freshText_of_fetch {source : String} (fetched : c.loader.fetch name = .ok source) :
    c.freshText name = c.compileSource name source := by
  rw [freshText, fetched]

theorem CacheFresh.lookup (fresh : c.CacheFresh) (found : c.cache.lookup name = some text) : c.freshText name = .ok text := by
  obtain ⟨front, behind, split, -⟩ := List.lookup_eq_some_iff.mp found
  refine fresh (name, text) ?_
  rw [split]
  exact List.mem_append_right _ List.mem_cons_self

theorem CacheFresh.of_empty (empty : c.cache = []) : c.CacheFresh := by
  rw [CacheFresh, empty]
  exact nofun

theorem CacheFresh.insert (fresh : c.CacheFresh) (own : c.freshText name = .ok text) :
    CacheFresh { c with cache := (name, text) :: c.cache } :=
  List.forall_mem_cons.mpr ⟨own, fresh⟩

/-- What is kept of a fresh text is fresh, and only the cache changes. -/
theorem CacheFresh.keep (fresh : c.CacheFresh) (own : c.freshText name = .ok text) :
    c.freshText name = .ok (c.keep name text).1 ∧ (c.keep name text).2.CacheFresh ∧
      ∃ cache, (c.keep name text).2 = { c with cache := cache } := by
  rw [Compiler.keep]
  split
  · rename_i found
    exact ⟨fresh.lookup found, fresh, c.cache, rfl⟩
  · exact ⟨own, fresh.insert own, (name, text) :: c.cache, rfl⟩

theorem Shared.Fresh.others (fresh : Shared.Fresh ⟨c, before ++ call :: after⟩) :
    call.Fresh c ∧ ∀ other ∈ before ++ after, other.Fresh c := by
  obtain ⟨earlier, later⟩ := List.forall_mem_append.mp fresh.calls
  obtain ⟨own, later⟩ := List.forall_mem_cons.mp later
  exact ⟨own, List.forall_mem_append.mpr ⟨earlier, later⟩⟩

theorem Shared.Fresh.replace (fresh : Shared.Fresh ⟨c, before ++ call :: after⟩) {moved : Call} (own : moved.Fresh c) :
    Shared.Fresh ⟨c, before ++ moved :: after⟩ := by
  obtain ⟨earlier, later⟩ := List.forall_mem_append.mp fresh.others.2
  exact ⟨fresh.cache, List.forall_mem_append.mpr ⟨earlier, List.forall_mem_cons.mpr ⟨own, later⟩⟩⟩

/-- A step changes the compiler in its cache at most, apart from the pass that it adds. -/
theorem Step.compiler (step : Step s event next) : ∃ cache, next.compiler = { event.install s.compiler with cache := cache } := by
  cases step with
  | call | hit | miss | fetch | fetchFails | compile | compileFails | clear | addPass => exact ⟨_, rfl⟩
  | @insert c _ _ name text =>
      rw [Compiler.keep]
      split
      · exact ⟨c.cache, rfl⟩
      · exact ⟨_, rfl⟩

theorem Step.fresh (step : Step s event next) (fresh : s.Fresh) : next.Fresh := by
  cases step with
  | call name => exact ⟨fresh.cache, List.forall_mem_append.mpr ⟨fresh.calls, List.forall_mem_singleton.mpr trivial⟩⟩
  | hit | fetchFails | compileFails => exact ⟨fresh.cache, fresh.others.2⟩
  | miss => exact fresh.replace trivial
  | fetch fetched => exact fresh.replace fetched
  | compile compiled => exact fresh.replace ((freshText_of_fetch fresh.others.1).trans compiled)
  | insert =>
      obtain ⟨own, others⟩ := fresh.others
      obtain ⟨-, kept, cache, same⟩ := fresh.cache.keep own
      refine ⟨kept, fun call member => ?_⟩
      dsimp only
      rw [same]
      exact others call member
  | clear => exact ⟨nofun, fresh.calls⟩
  | addPass => exact ⟨nofun, nofun⟩

theorem Step.result {result : Except TemplateError String} (step : Step s (.returned name result) next) (fresh : s.Fresh) :
    result = s.compiler.freshText name := by
  cases step with
  | hit found => exact (fresh.cache.lookup found).symm
  | fetchFails failed => rw [freshText, failed]
  | compileFails failed => exact ((freshText_of_fetch fresh.others.1).trans failed).symm
  | insert => exact (fresh.cache.keep fresh.others.1).1.symm

end

section

variable {c : Compiler} {s : Shared} {log : List Event}

/-- After a run everything is fresh, and the compiler has the passes that were added. -/
theorem Run.fresh (start : c.CacheFresh) (run : Run ⟨c, []⟩ log s) :
    s.Fresh ∧ ∃ cache, s.compiler = { c.afterEvents log with cache := cache } := by
  induction run with
  | start => exact ⟨⟨start, nofun⟩, c.cache, rfl⟩
  | @step log event now next _ step ih =>
      obtain ⟨fresh, cache, same⟩ := ih
      obtain ⟨later, changed⟩ := step.compiler
      refine ⟨step.fresh fresh, later, ?_⟩
      rw [changed, same, afterEvents, afterEvents, List.foldl_append, List.foldl_cons, List.foldl_nil]
      cases event <;> rfl

theorem Run.result (fresh : c.CacheFresh) (run : Run ⟨c, []⟩ log s) {before after : List Event} {name : String}
    {result : Except TemplateError String} (split : log = before ++ .returned name result :: after) :
    result = (c.afterEvents before).freshText name := by
  induction run generalizing after with
  | start => simp at split
  | @step log event now next run step ih =>
      rcases List.eq_nil_or_concat after with rfl | ⟨earlier, last, rfl⟩
      · obtain ⟨rfl, same⟩ := List.append_inj' split rfl
        cases same
        obtain ⟨now, cache, same⟩ := run.fresh fresh
        rw [step.result now, same]
        rfl
      · rw [List.concat_eq_append, ← List.cons_append, ← List.append_assoc] at split
        exact ih (List.append_inj' split rfl).1

theorem afterEvents_of_no_pass (c : Compiler) (none : ∀ event ∈ log, event.addsPass = false) : c.afterEvents log = c := by
  induction log generalizing c with
  | nil => rfl
  | cons event log ih =>
      obtain ⟨here, later⟩ := List.forall_mem_cons.mp none
      cases event with
      | passAdded => cases here
      | called | proceeded | returned | cleared => exact ih c later

/-- A call that nothing comes between is a compilation of the template with the cache. -/
theorem run_compileTemplate (s : Shared) (name : String) :
    ∃ steps, Run s (steps ++ [.returned name (s.compiler.compileTemplate name).1])
      ⟨(s.compiler.compileTemplate name).2, s.calls⟩ := by
  obtain ⟨c, calls⟩ := s
  have called : Run ⟨c, calls⟩ _ _ := .step .start (.call name)
  have ends {steps : List Event} {last : Call} {result : Except TemplateError String} {later : Compiler}
      (run : Run ⟨c, calls⟩ steps ⟨c, calls ++ [last]⟩)
      (step : Step ⟨c, calls ++ [last]⟩ (.returned name result) ⟨later, calls ++ []⟩) :
      ∃ steps, Run ⟨c, calls⟩ (steps ++ [.returned name result]) ⟨later, calls⟩ := by
    rw [List.append_nil] at step
    exact ⟨steps, run.step step⟩
  cases found : c.cache.lookup name with
  | some text =>
      rw [compileTemplate, found]
      exact ends called (.hit found)
  | none =>
      have missed := called.step (.miss found)
      cases fetched : c.loader.fetch name with
      | error e =>
          rw [compileTemplate, found, freshText, fetched]
          exact ends missed (.fetchFails fetched)
      | ok source =>
          have sourced := missed.step (.fetch fetched)
          cases compiled : c.compileSource name source with
          | error e =>
              rw [compileTemplate, found, freshText_of_fetch fetched, compiled]
              exact ends sourced (.compileFails compiled)
          | ok text =>
              have done := ends (sourced.step (.compile compiled)) .insert
              rw [keep, found] at done
              rw [compileTemplate, found, freshText_of_fetch fetched, compiled]
              exact done

/-- However calls, clearings and additions of passes follow each other: a call returns what compiling the fetched source
returns under the passes of that moment, the cache holds such texts only and none for a template that does not compile, calls
for one name return the same unless a pass was added between them, and every further call can come to its end. -/
theorem run_returns_fresh (empty : c.cache = []) (run : Run ⟨c, []⟩ log s) :
    (∀ before name result after, log = before ++ .returned name result :: after →
        result = (c.afterEvents before).freshText name) ∧
      (∀ entry ∈ s.compiler.cache, (c.afterEvents log).freshText entry.1 = .ok entry.2) ∧
      (∀ name e, (c.afterEvents log).freshText name = .error e → s.compiler.cache.lookup name = none) ∧
      (∀ before name first between second after,
        log = before ++ .returned name first :: (between ++ .returned name second :: after) →
        (∀ event ∈ between, event.addsPass = false) → first = second) ∧
      ∀ name, ∃ steps, Run s (steps ++ [.returned name (s.compiler.compileTemplate name).1])
        ⟨(s.compiler.compileTemplate name).2, s.calls⟩ := by
  have start := CacheFresh.of_empty empty
  obtain ⟨fresh, cache, same⟩ := run.fresh start
  have texts : ∀ entry ∈ s.compiler.cache, (c.afterEvents log).freshText entry.1 = .ok entry.2 := by
    intro entry member
    have own := fresh.cache entry member
    rw [same] at own
    exact own
  refine ⟨fun before name result after split => run.result start split, texts, ?_, ?_, run_compileTemplate s⟩
  · intro name e fails
    cases found : s.compiler.cache.lookup name with
    | none => rfl
    | some text =>
        have own := fresh.cache.lookup found
        rw [same] at own
        cases own.symm.trans fails
  · intro before name first between second after split noPass
    have one := run.result start split
    rw [← List.cons_append, ← List.append_assoc] at split
    have other := run.result start split
    rw [one, other, afterEvents, afterEvents, List.foldl_append, List.foldl_cons]
    exact congrArg (freshText · name) (afterEvents_of_no_pass (before.foldl Event.install c) noPass).symm

theorem start_of_build {config : Config} {loader : Loader} {extensions : List Extension}
    (built : Compiler.build config loader extensions = .ok c) : c.cache = [] ∧ c.loader = loader := by
  obtain ⟨-, registries, -, rfl⟩ := build_eq_ok built
  exact ⟨rfl, rfl⟩

end

/-- Two calls for one template miss the cache together; it is cleared between their insertions, and a pass is added in the
end. -/
def racingLog (text : String) : List Event :=
  [.called "page", .called "page", .proceeded "page", .proceeded "page", .proceeded "page", .proceeded "page",
    .proceeded "page", .proceeded "page", .returned "page" (.ok text), .cleared, .returned "page" (.ok text),
    .passAdded OutputSafety.pass]

theorem racingCalls_return_fresh :
    ∃ c text, Compiler.build {} (.ofList [("page", "a\x7b\x7b x \x7d\x7d")]) [] = .ok c ∧ c.cache = [] ∧
      Run ⟨c, []⟩ (racingLog text) ⟨c.addPass OutputSafety.pass, []⟩ ∧ .ok text = c.freshText "page" := by
  have outcome : (do
      let c ← (Compiler.build {} (.ofList [("page", "a\x7b\x7b x \x7d\x7d")]) []).toOption
      return (c.compileSource "page" "a\x7b\x7b x \x7d\x7d").isOk) = some true := by
    rw [build_default]
    decide +kernel
  obtain ⟨c, built, outcome⟩ := Option.bind_eq_some_iff.mp outcome
  rw [toOption_eq_some] at built
  cases compiled : c.compileSource "page" "a\x7b\x7b x \x7d\x7d" with
  | error e =>
      rw [compiled] at outcome
      cases outcome
  | ok text =>
      obtain ⟨empty, loader⟩ := start_of_build built
      have fetched : c.loader.fetch "page" = .ok "a\x7b\x7b x \x7d\x7d" := by
        rw [loader]
        rfl
      have missing : c.cache.lookup "page" = none := by
        rw [empty]
        rfl
      have kept : c.keep "page" text = (text, { c with cache := [("page", text)] }) := by
        rw [keep, missing, empty]
      have both : Run ⟨c, []⟩ _ ⟨c, [⟨"page", .starting⟩, ⟨"page", .starting⟩]⟩ :=
        (Run.start.step (.call "page")).step (.call "page")
      have missed := (both.step (@Step.miss c [] _ _ missing)).step (@Step.miss c [_] [] _ missing)
      have sourced := (missed.step (@Step.fetch c [] _ _ _ fetched)).step (@Step.fetch c [_] [] _ _ fetched)
      have ready := (sourced.step (@Step.compile c [] _ _ _ _ compiled)).step (@Step.compile c [_] [] _ _ _ compiled)
      have first := ready.step (@Step.insert c [_] [] _ _)
      rw [kept] at first
      have emptied : Compiler.clearCache { c with cache := [("page", text)] } = c := by
        rw [clearCache, ← empty]
      have cleared := first.step .clear
      rw [emptied] at cleared
      have second := cleared.step (@Step.insert c [] [] _ _)
      rw [kept] at second
      have run : Run ⟨c, []⟩ (racingLog text) ⟨c.addPass OutputSafety.pass, []⟩ := second.step (.addPass OutputSafety.pass)
      obtain ⟨results, -⟩ := run_returns_fresh empty run
      exact ⟨c, text, built, empty, run, results (racingLog text |>.take 8) "page" (.ok text) _ rfl⟩

end Templating.Compiler
