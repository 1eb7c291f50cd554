import Templating.Proofs.Cursor
import Templating.Proofs.Outcome
import Templating.Proofs.Simulation
import Templating.Render.Rendering

/-! # Runs with inclusions

Compiled templates include each other by names that are computed while they run, so nothing in a template bounds how often.
What does is a count in the context: an inclusion adds one to it, takes one from it in the end, also after a failure, and is
refused where the count has reached the limit. The runs here have this count and no other bound. They always end, with the
result that rendering computes, and the count is the number of inclusions in progress.
-/

namespace Templating

namespace Code

/-- What a running template has still to do. -/
inductive Job where
  /-- A statement. -/
  | run (statement : Stmt)
  /-- The locals of the next round of a loop. -/
  | bind (locals : List (Nat × Local))

namespace Job

/-- The statements of a body. -/
def all (body : List Stmt) : List Job :=
  body.map .run

/-- The rounds of a loop, each with its own locals. -/
def rounds (body : List Stmt) (locals : List (List (Nat × Local))) : List Job :=
  locals.flatMap fun own => .bind own :: all body

end Job

/-- The body of the first branch whose test passes, or the last body if none does. -/
def Chain.chosen (env : Environment) (m : Machine) : Chain → Except Failure (List Stmt)
  | .done => .ok []
  | .otherwise body => .ok body
  | .orElse test body rest => do
    if ← test.passes env m then return body
    else rest.chosen env m

/-- Whether a statement renders another template. -/
def Stmt.isInclusion : Stmt → Bool
  | .include _ => true
  | _ => false

/-- What a statement that is no inclusion does by itself, and the jobs that it leaves. Statements without a body never ask
how templates are included. -/
def Stmt.start (env : Environment) (m : Machine) : Stmt → Except Failure (Machine × List Job)
  | .each key value entries body =>
    .ok (m, Job.rounds body ((m.entries entries).map fun entry => [(value, .value entry.2), (key, .value entry.1)]))
  | .eachNumbered index key value entries body =>
    .ok (m, Job.rounds body ((m.entries entries).zipIdx.map fun entry =>
      [(value, .value entry.1.2), (key, .value entry.1.1), (index, .count entry.2)]))
  | .branch test body rest => do
    let chosen ← Chain.chosen env m (.orElse test body rest)
    return (m, Job.all chosen)
  | .whenSet flag body => .ok (m, if m.flag flag then Job.all body else [])
  | .block body => .ok (m, Job.all body)
  | .labelled _ body => .ok (m, Job.all body)
  | statement => do
    let m ← exec env (env.includer 0) m statement
    return (m, [])

end Code

namespace Environment

open Code

/-- What happens with inclusions, and how many the context counts: before the template is entered, after it is left, or when
it is refused. -/
inductive Event where
  | entered (name : String) (depth : Nat)
  | left (name : String) (depth : Nat)
  | refused (name : String) (failure : Failure) (depth : Nat)

/-- Jobs run on a machine, from one count of inclusions to another. -/
inductive Runs (env : Environment) : Nat → Machine → List Job → Except Failure Machine → Nat → List Event → Prop
  | done {depth : Nat} {m : Machine} : Runs env depth m [] (.ok m) depth []
  | bind {depth after : Nat} {m : Machine} {locals : List (Nat × Local)} {rest : List Job} {result : Except Failure Machine}
      {trace : List Event} :
      Runs env depth { m with locals := locals ++ m.locals } rest result after trace →
      Runs env depth m (.bind locals :: rest) result after trace
  | step {depth after : Nat} {m m' : Machine} {statement : Stmt} {jobs rest : List Job} {result : Except Failure Machine}
      {trace : List Event} :
      statement.isInclusion = false → statement.start env m = .ok (m', jobs) →
      Runs env depth m' (jobs ++ rest) result after trace →
      Runs env depth m (.run statement :: rest) result after trace
  | fault {depth : Nat} {m : Machine} {statement : Stmt} {rest : List Job} {failure : Failure} :
      statement.isInclusion = false → statement.start env m = .error failure →
      Runs env depth m (.run statement :: rest) (.error failure) depth []
  | missing {depth source : Nat} {m : Machine} {rest : List Job} {failure : Failure} :
      env.template (m.value source).display = .error failure →
      Runs env depth m (.run (.include source) :: rest) (.error failure) depth
        [.refused (m.value source).display failure depth]
  | tooDeep {depth source : Nat} {m : Machine} {rest : List Job} {body : List Stmt} :
      env.template (m.value source).display = .ok body → includeLimit ≤ depth →
      Runs env depth m (.run (.include source) :: rest) (.error (.includeDepth (m.value source).display)) depth
        [.refused (m.value source).display (.includeDepth (m.value source).display) depth]
  | included {depth source inside after : Nat} {m last : Machine} {rest : List Job} {body : List Stmt}
      {result : Except Failure Machine} {trace later : List Event} :
      env.template (m.value source).display = .ok body → depth < includeLimit →
      Runs env (depth + 1) { context := m.context, output := m.output } (Job.all body) (.ok last) inside trace →
      Runs env (inside - 1) { m with context := last.context, output := last.output } rest result after later →
      Runs env depth m (.run (.include source) :: rest) result after
        (.entered (m.value source).display depth :: trace ++ .left (m.value source).display (inside - 1) :: later)
  | failed {depth source inside : Nat} {m : Machine} {rest : List Job} {body : List Stmt} {failure : Failure}
      {trace : List Event} :
      env.template (m.value source).display = .ok body → depth < includeLimit →
      Runs env (depth + 1) { context := m.context, output := m.output } (Job.all body) (.error failure) inside trace →
      Runs env depth m (.run (.include source) :: rest) (.error failure) (inside - 1)
        (.entered (m.value source).display depth :: trace ++ [.left (m.value source).display (inside - 1)])

/-- The events of inclusions that are entered below the limit, left with the count from before, and refused only for want of
a template or at the limit. -/
inductive Accounted (env : Environment) : Nat → List Event → Prop
  | done {depth : Nat} : Accounted env depth []
  | missing {depth : Nat} {name : String} : env.hasTemplate name = false →
      Accounted env depth [.refused name (.templateNotFound name) depth]
  | tooDeep {name : String} : env.hasTemplate name = true →
      Accounted env includeLimit [.refused name (.includeDepth name) includeLimit]
  | included {depth : Nat} {name : String} {trace later : List Event} : env.hasTemplate name = true → depth < includeLimit →
      Accounted env (depth + 1) trace → Accounted env depth later →
      Accounted env depth (.entered name depth :: trace ++ .left name depth :: later)

/-- Performs jobs in order. -/
def perform (env : Environment) (includer : Includer) (m : Machine) (jobs : List Job) : Except Failure Machine :=
  jobs.foldlM (fun m job =>
    match job with
    | .run statement => exec env includer m statement
    | .bind locals => .ok { m with locals := locals ++ m.locals }) m

section

variable {env : Environment} {includer : Includer} {m m' : Machine} {statement : Stmt} {jobs rest : List Job}

theorem perform_run : env.perform includer m (.run statement :: rest) =
    (exec env includer m statement >>= fun m => env.perform includer m rest) :=
  rfl

theorem perform_append : env.perform includer m (jobs ++ rest) =
    (env.perform includer m jobs >>= fun m => env.perform includer m rest) :=
  List.foldlM_append

theorem perform_all (body : List Stmt) (m : Machine) :
    env.perform includer m (Job.all body) = execAll env includer m body := by
  induction body generalizing m with
  | nil => rw [execAll]; rfl
  | cons statement body ih =>
      rw [execAll]
      exact bind_congr fun m => ih m

theorem perform_rounds {α : Type} (body : List Stmt) (locals : α → List (Nat × Local)) (items : List α) (m : Machine) :
    env.perform includer m (Job.rounds body (items.map locals)) =
      items.foldlM (fun m item => execAll env includer { m with locals := locals item ++ m.locals } body) m := by
  induction items generalizing m with
  | nil => rfl
  | cons item items ih =>
      rw [List.map_cons, Job.rounds, List.flatMap_cons, perform_append, List.foldlM_cons, ← perform_all]
      exact bind_congr fun m => ih m

theorem execChain_chosen (m : Machine) : ∀ chain : Chain,
    execChain env includer m chain = (chain.chosen env m >>= fun body => execAll env includer m body)
  | .done => by
      rw [execChain, Chain.chosen, ok_bind, execAll]
  | .otherwise body => by
      rw [execChain, Chain.chosen, ok_bind]
  | .orElse test body rest => by
      rw [execChain, Chain.chosen, bind_assoc]
      refine bind_congr fun passes => ?_
      cases passes with
      | true => rfl
      | false => exact execChain_chosen m rest

theorem exec_start (plain : statement.isInclusion = false) :
    exec env includer m statement = (statement.start env m >>= fun started => env.perform includer started.1 started.2) := by
  cases statement with
  | «include» source => cases plain
  | each key value entries body =>
      rw [exec, Stmt.start, ok_bind, perform_rounds]
      rfl
  | eachNumbered index key value entries body =>
      rw [exec, Stmt.start, ok_bind, perform_rounds]
      rfl
  | branch test body rest =>
      rw [Stmt.start, bind_assoc]
      simp only [pure_bind, perform_all]
      rw [← execChain_chosen, exec, execChain]
  | whenSet flag body =>
      rw [exec, Stmt.start, ok_bind]
      split
      · exact (perform_all body m).symm
      · rfl
  | block body =>
      rw [exec, Stmt.start, ok_bind]
      exact (perform_all body m).symm
  | labelled keyword body =>
      rw [exec, Stmt.start, ok_bind]
      exact (perform_all body m).symm
  | _ =>
      simp [Stmt.start, exec, perform]

theorem template_eq_ok {name : String} {body : List Stmt} (found : env.template name = .ok body) :
    env.hasTemplate name = true := by
  rw [template] at found
  rw [hasTemplate]
  split at found
  · rename_i there
    rw [there]
    rfl
  · cases found

theorem template_eq_error {name : String} {failure : Failure} (missing : env.template name = .error failure) :
    env.hasTemplate name = false ∧ failure = .templateNotFound name := by
  rw [template] at missing
  rw [hasTemplate]
  split at missing
  · cases missing
  · rename_i nowhere
    cases missing
    exact ⟨by rw [nowhere]; rfl, rfl⟩

theorem includer_of_missing {name : Value} {failure : Failure} (missing : env.template name.display = .error failure)
    (remaining : Nat) (context : Context) (output : Output) :
    env.includer remaining name context output = .error failure := by
  cases remaining with
  | zero =>
      show (env.template name.display >>= _) = _
      rw [missing, error_bind]
  | succ remaining =>
      show (env.template name.display >>= _) = _
      rw [missing, error_bind]

theorem includer_zero {name : Value} {body : List Stmt} (found : env.template name.display = .ok body) (context : Context)
    (output : Output) : env.includer 0 name context output = .error (.includeDepth name.display) := by
  show (env.template name.display >>= _) = _
  rw [found, ok_bind]

theorem includer_succ {name : Value} {body : List Stmt} (found : env.template name.display = .ok body) (remaining : Nat)
    (context : Context) (output : Output) : env.includer (remaining + 1) name context output =
      (execAll env (env.includer remaining) { context := context, output := output } body >>= fun last =>
        .ok (last.context, last.output)) := by
  show (env.template name.display >>= _) = _
  rw [found, ok_bind]
  rfl

end

section

variable {env : Environment} {depth after : Nat} {m : Machine} {jobs rest : List Job} {result : Except Failure Machine}
  {trace : List Event}

theorem Runs.restores (runs : env.Runs depth m jobs result after trace) : after = depth := by
  induction runs with
  | done | fault | missing | tooDeep => rfl
  | bind _ ih => exact ih
  | step _ _ _ ih => exact ih
  | included _ _ _ _ inner onward => rw [onward, inner, Nat.add_sub_cancel]
  | failed _ _ _ inner => rw [inner, Nat.add_sub_cancel]

theorem Runs.result_eq (runs : env.Runs depth m jobs result after trace) (deep : depth ≤ includeLimit) :
    result = env.perform (env.includer (includeLimit - depth)) m jobs := by
  induction runs with
  | done => rfl
  | bind _ ih => exact ih deep
  | step plain started _ ih => rw [ih deep, perform_run, exec_start plain, started, ok_bind, perform_append]
  | fault plain started => rw [perform_run, exec_start plain, started, error_bind, error_bind]
  | missing absent => rw [perform_run, exec, includer_of_missing absent, error_bind, error_bind]
  | tooDeep found full =>
      obtain rfl := Nat.le_antisymm deep full
      rw [perform_run, exec, Nat.sub_self, includer_zero found, error_bind, error_bind]
  | @included depth source inside after m last rest body result trace later found below first _ inner onward =>
      have restored := first.restores
      subst restored
      have bound : includeLimit - depth = includeLimit - (depth + 1) + 1 := by omega
      have entered := inner below
      rw [perform_all] at entered
      rw [Nat.add_sub_cancel] at onward
      rw [onward deep, perform_run, exec]
      nth_rewrite 2 [bound]
      rw [includer_succ found, ← entered, ok_bind, ok_bind, pure_bind]
  | @failed depth source inside m rest body failure trace found below first inner =>
      have bound : includeLimit - depth = includeLimit - (depth + 1) + 1 := by omega
      have entered := inner below
      rw [perform_all] at entered
      rw [perform_run, exec, bound, includer_succ found, ← entered, error_bind, error_bind, error_bind]

theorem Runs.accounted (runs : env.Runs depth m jobs result after trace) (deep : depth ≤ includeLimit) :
    env.Accounted depth trace := by
  induction runs with
  | done => exact .done
  | bind _ ih => exact ih deep
  | step _ _ _ ih => exact ih deep
  | fault => exact .done
  | missing absent =>
      obtain ⟨nowhere, rfl⟩ := template_eq_error absent
      exact .missing nowhere
  | tooDeep found full =>
      obtain rfl := Nat.le_antisymm deep full
      exact .tooDeep (template_eq_ok found)
  | included found below first _ inner onward =>
      have restored := first.restores
      subst restored
      rw [Nat.add_sub_cancel] at onward ⊢
      exact .included (template_eq_ok found) below (inner below) (onward deep)
  | failed found below first inner =>
      have restored := first.restores
      subst restored
      rw [Nat.add_sub_cancel]
      exact .included (template_eq_ok found) below (inner below) .done

theorem mem_all {body : List Stmt} {statement : Stmt} : .run statement ∈ Job.all body ↔ statement ∈ body := by
  simp [Job.all]

theorem mem_of_mem_rounds {body : List Stmt} {locals : List (List (Nat × Local))} {statement : Stmt}
    (member : .run statement ∈ Job.rounds body locals) : statement ∈ body := by
  obtain ⟨own, -, inside⟩ := List.mem_flatMap.mp member
  rcases List.mem_cons.mp inside with other | inside
  · cases other
  · exact mem_all.mp inside

theorem sizeOf_lt_of_chosen {body : List Stmt} : ∀ {chain : Chain}, chain.chosen env m = .ok body →
    ∀ statement ∈ body, sizeOf statement < sizeOf chain
  | .done, chosen => by
      cases chosen
      exact nofun
  | .otherwise _, chosen => by
      cases chosen
      intro statement member
      have := List.sizeOf_lt_of_mem member
      simp only [Chain.otherwise.sizeOf_spec]
      omega
  | .orElse test first rest, chosen => by
      rw [Chain.chosen] at chosen
      obtain ⟨passes, -, chosen⟩ := bind_eq_ok.mp chosen
      intro statement member
      simp only [Chain.orElse.sizeOf_spec]
      cases passes with
      | true =>
          cases chosen
          have := List.sizeOf_lt_of_mem member
          omega
      | false =>
          have := sizeOf_lt_of_chosen chosen statement member
          omega

theorem sizeOf_lt_of_start {statement part : Stmt} {m' : Machine} (started : statement.start env m = .ok (m', jobs))
    (member : .run part ∈ jobs) : sizeOf part < sizeOf statement := by
  have within {body : List Stmt} (inside : part ∈ body) : sizeOf part < sizeOf body := List.sizeOf_lt_of_mem inside
  cases statement with
  | each key value entries body =>
      cases started
      have := within (mem_of_mem_rounds member)
      simp only [Stmt.each.sizeOf_spec]
      omega
  | eachNumbered index key value entries body =>
      cases started
      have := within (mem_of_mem_rounds member)
      simp only [Stmt.eachNumbered.sizeOf_spec]
      omega
  | branch test body rest =>
      obtain ⟨chosen, choice, ⟨⟩⟩ := bind_eq_ok.mp started
      have := sizeOf_lt_of_chosen choice part (mem_all.mp member)
      simp only [Chain.orElse.sizeOf_spec] at this
      simp only [Stmt.branch.sizeOf_spec]
      omega
  | whenSet flag body =>
      cases started
      split at member
      · have := within (mem_all.mp member)
        simp only [Stmt.whenSet.sizeOf_spec]
        omega
      · cases member
  | block body =>
      cases started
      have := within (mem_all.mp member)
      simp only [Stmt.block.sizeOf_spec]
      omega
  | labelled keyword body =>
      cases started
      have := within (mem_all.mp member)
      simp only [Stmt.labelled.sizeOf_spec]
      omega
  | _ =>
      obtain ⟨last, -, ⟨⟩⟩ := bind_eq_ok.mp started
      cases member

/-- Jobs that come to an end. -/
def Ends (env : Environment) (depth : Nat) (m : Machine) (jobs : List Job) : Prop :=
  ∃ result after trace, env.Runs depth m jobs result after trace

theorem ends_append
    (each : ∀ statement, .run statement ∈ jobs → ∀ m rest, (∀ m, env.Ends depth m rest) →
      env.Ends depth m (.run statement :: rest))
    (onward : ∀ m, env.Ends depth m rest) (m : Machine) : env.Ends depth m (jobs ++ rest) := by
  induction jobs generalizing m with
  | nil => exact onward m
  | cons job jobs ih =>
      have later := ih fun statement member => each statement (List.mem_cons_of_mem _ member)
      cases job with
      | run statement => exact each statement List.mem_cons_self m (jobs ++ rest) later
      | bind locals =>
          obtain ⟨result, after, trace, runs⟩ := later { m with locals := locals ++ m.locals }
          exact ⟨result, after, trace, .bind runs⟩

theorem ends_statement (inner : depth < includeLimit → ∀ m jobs, env.Ends (depth + 1) m jobs) (statement : Stmt) :
    ∀ m rest, (∀ m, env.Ends depth m rest) → env.Ends depth m (.run statement :: rest) := by
  -- By the size of the statement: a loop leaves as many rounds as there are entries, but each of them is smaller.
  induction size : sizeOf statement using Nat.strong_induction_on generalizing statement with
  | _ size ih =>
      intro m rest onward
      cases inclusion : statement.isInclusion with
      | false =>
          cases started : statement.start env m with
          | error failure => exact ⟨_, _, _, .fault inclusion started⟩
          | ok next =>
              obtain ⟨m', jobs⟩ := next
              have parts : ∀ part, .run part ∈ jobs → ∀ m rest, (∀ m, env.Ends depth m rest) →
                  env.Ends depth m (.run part :: rest) :=
                fun part member => ih (sizeOf part) (size ▸ sizeOf_lt_of_start started member) part rfl
              obtain ⟨result, after, trace, runs⟩ := ends_append parts onward m'
              exact ⟨result, after, trace, .step inclusion started runs⟩
      | true =>
          obtain ⟨source, rfl⟩ : ∃ source, statement = .include source := by
            cases statement with
            | «include» source => exact ⟨source, rfl⟩
            | _ => cases inclusion
          cases found : env.template (m.value source).display with
          | error failure => exact ⟨_, _, _, .missing found⟩
          | ok body =>
              by_cases below : depth < includeLimit
              · obtain ⟨result, inside, trace, runs⟩ :=
                  inner below { context := m.context, output := m.output } (Job.all body)
                cases result with
                | error failure => exact ⟨_, _, _, .failed found below runs⟩
                | ok last =>
                    have restored := runs.restores
                    subst restored
                    obtain ⟨result, after, later, further⟩ :=
                      onward { m with context := last.context, output := last.output }
                    exact ⟨_, _, _, .included found below runs (by rw [Nat.add_sub_cancel]; exact further)⟩
              · exact ⟨_, _, _, .tooDeep found (Nat.le_of_not_lt below)⟩

theorem ends (env : Environment) (depth : Nat) (m : Machine) (jobs : List Job) : env.Ends depth m jobs := by
  -- By the inclusions that the limit still allows, and for each count by the size of the statements.
  induction left : includeLimit - depth using Nat.strong_induction_on generalizing depth m jobs with
  | _ left ih =>
      have inner (below : depth < includeLimit) (m : Machine) (jobs : List Job) : env.Ends (depth + 1) m jobs :=
        ih (includeLimit - (depth + 1)) (by omega) (depth + 1) m jobs rfl
      have whole : env.Ends depth m (jobs ++ []) :=
        ends_append (fun statement _ => ends_statement inner statement) (fun m => ⟨_, _, _, .done⟩) m
      rwa [List.append_nil] at whole

/-- How many templates events enter. -/
def entries (trace : List Event) : Nat :=
  trace.countP fun event =>
    match event with
    | .entered _ _ => true
    | _ => false

/-- How many templates events leave. -/
def exits (trace : List Event) : Nat :=
  trace.countP fun event =>
    match event with
    | .left _ _ => true
    | _ => false

theorem counts_append (trace later : List Event) :
    entries (trace ++ later) = entries trace + entries later ∧ exits (trace ++ later) = exits trace + exits later :=
  ⟨List.countP_append, List.countP_append⟩

theorem counts_entered (name : String) (depth : Nat) (later : List Event) :
    entries (.entered name depth :: later) = entries later + 1 ∧ exits (.entered name depth :: later) = exits later :=
  ⟨List.countP_cons_of_pos rfl, List.countP_cons_of_neg nofun⟩

theorem counts_left (name : String) (depth : Nat) (later : List Event) :
    entries (.left name depth :: later) = entries later ∧ exits (.left name depth :: later) = exits later + 1 :=
  ⟨List.countP_cons_of_neg nofun, List.countP_cons_of_pos rfl⟩

theorem Accounted.balanced (accounted : env.Accounted depth trace) : entries trace = exits trace := by
  induction accounted with
  | done | missing | tooDeep => rfl
  | included _ _ _ _ inner onward =>
      simp only [List.cons_append, counts_entered, counts_append, counts_left, inner, onward]
      omega

theorem Accounted.inProgress (accounted : env.Accounted depth trace) (deep : depth ≤ includeLimit) (count : Nat) :
    exits (trace.take count) ≤ entries (trace.take count) ∧
      depth + entries (trace.take count) ≤ includeLimit + exits (trace.take count) := by
  induction accounted generalizing count with
  | done =>
      rw [List.take_nil]
      exact ⟨Nat.le_refl 0, deep⟩
  | missing | tooDeep =>
      cases count with
      | zero => exact ⟨Nat.le_refl 0, deep⟩
      | succ count =>
          rw [List.take_succ_cons, List.take_nil]
          exact ⟨Nat.le_refl 0, deep⟩
  | @included depth name trace later _ below first _ inner onward =>
      cases count with
      | zero => exact ⟨Nat.le_refl 0, deep⟩
      | succ count =>
          rw [List.cons_append, List.take_succ_cons, List.take_append]
          simp only [counts_entered, counts_append]
          rcases Nat.lt_or_ge trace.length count with beyond | within
          · -- The inclusion is over: it was entered once and left once.
            obtain ⟨rest, behind⟩ : ∃ rest, count - trace.length = rest + 1 := ⟨count - trace.length - 1, by omega⟩
            have finished := onward deep rest
            rw [List.take_of_length_le beyond.le, behind, List.take_succ_cons, first.balanced]
            simp only [counts_left]
            omega
          · have still := inner below count
            rw [Nat.sub_eq_zero_of_le within, List.take_zero]
            have : entries [] = 0 ∧ exits [] = 0 := ⟨rfl, rfl⟩
            omega

theorem eq_of_singleton_eq_append {α : Type} {a b : α} {front back : List α} (same : [a] = front ++ b :: back) :
    front = [] ∧ a = b := by
  obtain ⟨rfl, same⟩ | ⟨front, rfl, rest⟩ := List.cons_eq_append_iff.mp same
  · cases same
    exact ⟨rfl, rfl⟩
  · exact absurd rest.symm (List.append_ne_nil_of_right_ne_nil _ nofun)

/-- An inclusion of a template that exists is refused only where as many are in progress as the limit allows. -/
theorem Accounted.refused (accounted : env.Accounted depth trace) {before later : List Event} {name : String}
    {failure : Failure} {refusedAt : Nat} (split : trace = before ++ .refused name failure refusedAt :: later)
    (exist : env.hasTemplate name = true) :
    failure = .includeDepth name ∧ depth + entries before = includeLimit + exits before := by
  induction accounted generalizing before later with
  | done => exact absurd split.symm (List.append_ne_nil_of_right_ne_nil _ nofun)
  | missing nowhere =>
      obtain ⟨-, ⟨⟩⟩ := eq_of_singleton_eq_append split
      rw [nowhere] at exist
      cases exist
  | tooDeep =>
      obtain ⟨rfl, ⟨⟩⟩ := eq_of_singleton_eq_append split
      exact ⟨rfl, rfl⟩
  | included _ _ first _ inner onward =>
      obtain ⟨gap, rfl, rest⟩ | ⟨-, other, -⟩ | ⟨gap, within, -⟩ := append_cons_cases split
      · obtain ⟨tooDeep, inProgress⟩ := onward rest
        refine ⟨tooDeep, ?_⟩
        simp only [List.cons_append, counts_entered, counts_append, counts_left, first.balanced]
        omega
      · cases other
      · obtain ⟨rfl, other⟩ | ⟨front, rfl, rest⟩ := List.cons_eq_append_iff.mp within
        · cases other
        · obtain ⟨tooDeep, inProgress⟩ := inner rest
          refine ⟨tooDeep, ?_⟩
          simp only [counts_entered]
          omega

end

/-- A template fails by itself: there is none with the name, or its statements fail. -/
inductive Fails (env : Environment) (name : String) (given : List (String × Value)) : Failure → List Event → Prop
  | missing {failure : Failure} : env.template name = .error failure → Fails env name given failure []
  | statements {failure : Failure} {body : List Stmt} {after : Nat} {trace : List Event} : env.template name = .ok body →
      env.Runs 0 { context := env.startContext given } (Job.all body) (.error failure) after trace →
      Fails env name given failure trace

/-- Renderings with the events in each of their contexts: a template that fails is replaced by the error template, in a
context of its own, if there is one and it is another one. -/
inductive Renders (env : Environment) :
    String → List (String × Value) → Except Failure String → List (List Event) → Prop
  | done {name : String} {given : List (String × Value)} {body : List Stmt} {last : Machine} {after : Nat}
      {trace : List Event} : env.template name = .ok body →
      env.Runs 0 { context := env.startContext given } (Job.all body) (.ok last) after trace →
      Renders env name given (.ok last.output.text) [trace]
  | failed {name : String} {given : List (String × Value)} {failure : Failure} {trace : List Event} :
      env.Fails name given failure trace → (env.errorTemplate = none ∨ env.errorTemplate = some name) →
      Renders env name given (.error failure) [trace]
  | replaced {name fallback : String} {given : List (String × Value)} {failure : Failure} {result : Except Failure String}
      {trace : List Event} {later : List (List Event)} :
      env.Fails name given failure trace → env.errorTemplate = some fallback → fallback ≠ name →
      Renders env fallback [("error", .string failure.message)] result later →
      Renders env name given result (trace :: later)

section

variable {env : Environment} {name : String} {given : List (String × Value)} {failure : Failure} {trace : List Event}

theorem renderTemplate_of_template {body : List Stmt} (found : env.template name = .ok body) :
    env.renderTemplate name given =
      (env.perform (env.includer includeLimit) { context := env.startContext given } (Job.all body)).map (·.output.text) := by
  rw [renderTemplate, found, ok_bind, runBody, perform_all]
  cases execAll env (env.includer includeLimit) { context := env.startContext given, output := {} } body with
  | error failure => rfl
  | ok last => rfl

theorem Fails.renderTemplate (fails : env.Fails name given failure trace) :
    env.renderTemplate name given = .error failure ∧ env.Accounted 0 trace := by
  cases fails with
  | missing absent =>
      refine ⟨?_, .done⟩
      rw [Environment.renderTemplate, absent, error_bind]
  | statements found runs =>
      refine ⟨?_, runs.accounted (Nat.zero_le _)⟩
      rw [renderTemplate_of_template found, ← Nat.sub_zero includeLimit, ← runs.result_eq (Nat.zero_le _)]
      rfl

theorem render_of_failed (failed : env.renderTemplate name given = .error failure)
    (alone : env.errorTemplate = none ∨ env.errorTemplate = some name) : env.render name given = .error failure := by
  rw [render, failed]
  rcases alone with none | same
  · rw [none]
  · rw [same]
    exact if_pos rfl

theorem render_of_replaced {fallback : String} (failed : env.renderTemplate name given = .error failure)
    (configured : env.errorTemplate = some fallback) (other : fallback ≠ name) :
    env.render name given = env.render fallback [("error", .string failure.message)] := by
  -- Nothing stands in for the error template itself.
  have alone : env.render fallback [("error", .string failure.message)] =
      env.renderTemplate fallback [("error", .string failure.message)] := by
    rw [render, configured]
    cases env.renderTemplate fallback [("error", .string failure.message)] with
    | ok text => rfl
    | error failure => exact if_pos rfl
  rw [alone, render, failed, configured]
  exact if_neg other

theorem Renders.sound {result : Except Failure String} {traces : List (List Event)}
    (renders : env.Renders name given result traces) :
    result = env.render name given ∧ ∀ trace ∈ traces, env.Accounted 0 trace := by
  induction renders with
  | done found runs =>
      refine ⟨?_, List.forall_mem_singleton.mpr (runs.accounted (Nat.zero_le _))⟩
      rw [render, renderTemplate_of_template found, ← Nat.sub_zero includeLimit, ← runs.result_eq (Nat.zero_le _)]
      rfl
  | failed fails alone =>
      obtain ⟨failed, accounted⟩ := fails.renderTemplate
      exact ⟨(render_of_failed failed alone).symm, List.forall_mem_singleton.mpr accounted⟩
  | replaced fails configured other _ ih =>
      obtain ⟨failed, accounted⟩ := fails.renderTemplate
      exact ⟨ih.1.trans (render_of_replaced failed configured other).symm, List.forall_mem_cons.mpr ⟨accounted, ih.2⟩⟩

theorem exists_done_or_fails (env : Environment) (name : String) (given : List (String × Value)) :
    (∃ text traces, env.Renders name given (.ok text) traces) ∨ ∃ failure trace, env.Fails name given failure trace := by
  cases found : env.template name with
  | error failure => exact .inr ⟨failure, [], .missing found⟩
  | ok body =>
      obtain ⟨result, after, trace, runs⟩ := ends env 0 { context := env.startContext given } (Job.all body)
      cases result with
      | ok last => exact .inl ⟨_, _, .done found runs⟩
      | error failure => exact .inr ⟨failure, trace, .statements found runs⟩

theorem exists_renders (env : Environment) (name : String) (given : List (String × Value)) :
    ∃ result traces, env.Renders name given result traces := by
  rcases exists_done_or_fails env name given with ⟨text, traces, renders⟩ | ⟨failure, trace, fails⟩
  · exact ⟨_, _, renders⟩
  · cases configured : env.errorTemplate with
    | none => exact ⟨_, _, .failed fails (.inl configured)⟩
    | some fallback =>
        by_cases same : fallback = name
        · exact ⟨_, _, .failed fails (.inr (same ▸ configured))⟩
        · -- The error template has no other one to stand in for it.
          rcases exists_done_or_fails env fallback [("error", .string failure.message)] with
            ⟨text, traces, renders⟩ | ⟨later, trace', again⟩
          · exact ⟨_, _, .replaced fails configured same renders⟩
          · exact ⟨_, _, .replaced fails configured same (.failed again (.inr configured))⟩

theorem get?_startContext (env : Environment) (name key : String) (value : Value) :
    (env.startContext [(name, value)]).get? key = if key = name then some value else env.globals.get? key := by
  rw [startContext, List.foldl_cons, List.foldl_nil, Context.get?_set, Context.get?_pushScope, Context.get?_eq]
  split
  · rfl
  · exact Option.or_none

/-- Every rendering comes to an end, with at most 64 inclusions in progress at any time. Runs leave the count of inclusions
as it was, one more inclusion at the limit is refused, and a template that fails is replaced by the error template alone. -/
theorem render_accounts (env : Environment) (name : String) (given : List (String × Value)) :
    (∃ traces, env.Renders name given (env.render name given) traces) ∧
    (∀ result traces, env.Renders name given result traces → result = env.render name given ∧
      ∀ trace ∈ traces, env.Accounted 0 trace ∧
        (∀ count, exits (trace.take count) ≤ entries (trace.take count) ∧
          entries (trace.take count) ≤ exits (trace.take count) + 64) ∧
        ∀ before called failure depth later, trace = before ++ .refused called failure depth :: later →
          env.hasTemplate called = true → failure = .includeDepth called ∧ entries before = exits before + 64) ∧
    (∀ depth m jobs result after trace, env.Runs depth m jobs result after trace → after = depth) ∧
    (∀ m source rest result after trace, env.hasTemplate (m.value source).display = true →
      env.Runs 64 m (.run (.include source) :: rest) result after trace →
      result = .error (.includeDepth (m.value source).display)) ∧
    ∀ failure fallback, env.renderTemplate name given = .error failure → env.errorTemplate = some fallback →
      fallback ≠ name → env.render name given = env.render fallback [("error", .string failure.message)] ∧
        ∀ key, (env.startContext [("error", .string failure.message)]).get? key =
          if key = "error" then some (.string failure.message) else env.globals.get? key := by
  refine ⟨?_, ?_, fun depth m jobs result after trace runs => runs.restores, ?_, ?_⟩
  · obtain ⟨result, traces, renders⟩ := exists_renders env name given
    exact ⟨traces, renders.sound.1 ▸ renders⟩
  · intro result traces renders
    obtain ⟨computed, accounted⟩ := renders.sound
    refine ⟨computed, fun trace member => ⟨accounted trace member, fun count => ?_, ?_⟩⟩
    · obtain ⟨balanced, bounded⟩ := (accounted trace member).inProgress (Nat.zero_le _) count
      rw [includeLimit] at bounded
      exact ⟨balanced, by omega⟩
    · intro before called failure depth later split exist
      obtain ⟨tooDeep, inProgress⟩ := (accounted trace member).refused split exist
      rw [includeLimit] at inProgress
      exact ⟨tooDeep, by omega⟩
  · intro m source rest result after trace exist runs
    cases runs with
    | step inclusion => cases inclusion
    | fault inclusion => cases inclusion
    | missing absent => rw [(template_eq_error absent).1] at exist; cases exist
    | tooDeep => rfl
    | included _ below => exact absurd below (Nat.lt_irrefl 64)
    | failed _ below => exact absurd below (Nat.lt_irrefl 64)
  · intro failure fallback failed configured other
    exact ⟨render_of_replaced failed configured other, fun key => env.get?_startContext "error" key _⟩

end

/-- A template that includes itself, and one that says why another one failed. -/
def selfInclusion : Environment :=
  { templates := [("again", [.writeText "partial", .hold 0 (.constant (.string "again")), .include 0]),
      ("oops", [.writeText "failed: ", .writeValue (.variable "error")])]
    errorTemplate := some "oops" }

theorem selfInclusion_replaced :
    selfInclusion.renderTemplate "again" [] = .error (.includeDepth "again") ∧
      selfInclusion.render "again" [] = .ok "failed: include depth limit reached while including `again`" := by
  have failed : selfInclusion.renderTemplate "again" [] = .error (.includeDepth "again") := by decide +kernel
  obtain ⟨-, -, -, -, replaced⟩ := render_accounts selfInclusion "again" []
  refine ⟨failed, (replaced _ "oops" failed rfl (by decide)).1.trans ?_⟩
  decide +kernel

end Environment

end Templating
