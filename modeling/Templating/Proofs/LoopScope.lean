import Templating.Proofs.Simulation

/-! # Loops that share a scope

A loop inside another loop may write to the scope of that loop and roll its writes back, or open a scope of
its own; it may keep its round, or make it from a number. The statements of a program follow its meaning in
all of these forms: what the variables are worth and what is written never depends on the form.
-/

namespace Templating

namespace Compile

open Code (Matches Agrees Follows IncludesAlike execAll exec Machine lookup_hold)
open Context (Alike Restorable)

namespace LoopPlan

/-- The locals of a loop have different numbers, those of its body larger ones. -/
structure Ordered (plan : LoopPlan) (next : Nat) (l : LoopLocals) : Prop where
  mark : l.mark = next
  entries : next ≤ l.entries
  shared : plan.sharesScope = true → next < l.entries
  empty : l.empty = l.entries + 1
  key : l.entries < l.key
  noted : plan.hasElse = true → l.empty < l.key
  value : l.value = l.key + 1
  state : l.state = l.key + 2
  index : l.index = l.key + 3
  behind : l.behind = l.key + if plan.keepsState then 3 else 4

theorem locals_ordered (plan : LoopPlan) (next : Nat) : plan.Ordered next (plan.locals next) := by
  unfold LoopPlan.locals
  constructor <;> cases plan.sharesScope <;> cases plan.hasElse <;> cases plan.keepsState <;> simp

theorem le_behind (plan : LoopPlan) (next : Nat) : next ≤ (plan.locals next).behind := by
  have order := plan.locals_ordered next
  rw [order.behind]
  exact Nat.le_trans (Nat.le_trans order.entries (Nat.le_of_lt order.key)) (Nat.le_add_right _ _)

/-- The machine after the opening of a loop. -/
def opened (plan : LoopPlan) (l : LoopLocals) (m : Machine) : Machine :=
  if plan.sharesScope then (m.hold l.mark (.checkpoint m.context.mark)).withContext (·.openCheckpoint)
  else m.withContext (·.pushScope)

theorem exec_opening (plan : LoopPlan) (l : LoopLocals) (env : Environment) (includer : Code.Includer)
    (m : Machine) : exec env includer m (plan.opening l) = .ok (plan.opened l m) := by
  unfold opening opened
  split <;> rfl

theorem alike_opened (plan : LoopPlan) (l : LoopLocals) {m : Machine} {context : Context}
    (alike : Alike m.context context) : Alike (plan.opened l m).context context := by
  unfold opened
  split
  · exact alike
  · exact fun name => (Context.get?_pushScope m.context name).trans (alike name)

theorem output_opened (plan : LoopPlan) (l : LoopLocals) (m : Machine) :
    (plan.opened l m).output = m.output := by
  unfold opened
  split <;> rfl

/-- The closing of a loop takes the variables back to what they were before its opening. -/
theorem exec_closing (plan : LoopPlan) (l : LoopLocals) (env : Environment) (includer : Code.Includer)
    {m now : Machine} (run : Restorable (plan.opened l m).context now.context)
    (mark : plan.sharesScope = true → now.locals.lookup l.mark = some (.checkpoint m.context.mark)) :
    ∃ context, exec env includer now (plan.closing l) = .ok { now with context := context } ∧
      Alike context m.context ∧ Restorable m.context context := by
  unfold opened at run
  unfold closing
  split at run
  · rename_i shares
    refine ⟨now.context.rollback m.context.mark, ?_, run.alike_rollback, run.rollback⟩
    simp only [exec, shares, if_true, Machine.withContext, Machine.checkpoint, mark shares]
  · rename_i owns
    refine ⟨now.context.popScope, ?_, run.alike_popScope, run.popScope⟩
    simp only [exec, owns, Bool.false_eq_true, if_false, Machine.withContext]

theorem alike_bind (plan : LoopPlan) (entry : Value × Value) (round : LoopState) {left right : Context}
    (alike : Alike left right) : Alike (plan.bind entry round left) (plan.bind entry round right) := by
  unfold LoopPlan.bind
  cases plan.keyVariable with
  | none => exact (alike.set _ _).set _ _
  | some key => exact ((alike.set _ _).set _ _).set _ _

theorem restorable_bind (plan : LoopPlan) (entry : Value × Value) (round : LoopState) (context : Context) :
    Restorable context (plan.bind entry round context) := by
  unfold LoopPlan.bind
  cases plan.keyVariable with
  | none => exact (Restorable.set _ _ _).trans (.set _ _ _)
  | some key => exact ((Restorable.set _ _ _).trans (.set _ _ _)).trans (.set _ _ _)

/-- The bindings of a round, up to a statement that assigns the round itself, are `LoopPlan.bind`. -/
theorem execAll_bindings (plan : LoopPlan) (l : LoopLocals) (env : Environment) (includer : Code.Includer)
    {m : Machine} {entry : Value × Value} {round : LoopState} {assigning : Code.Stmt}
    (key : m.value l.key = entry.1) (value : m.value l.value = entry.2)
    (assigns : ∀ context, exec env includer { m with context := context } assigning =
      .ok { m with context := context.set "loop" round.toValue }) (rest : List Code.Stmt) :
    execAll env includer m (plan.bindings l ++ assigning :: rest) =
      execAll env includer { m with context := plan.bind entry round m.context } rest := by
  unfold bindings LoopPlan.bind
  cases plan.keyVariable with
  | none =>
      simp only [Option.toList_none, List.map_nil, List.nil_append, List.cons_append, execAll, exec, value,
        Machine.withContext, ok_bind, assigns]
  | some name =>
      have value' : Machine.value { m with context := m.context.set name entry.1 } l.value = entry.2 := value
      simp only [Option.toList_some, List.map_cons, List.map_nil, List.cons_append, List.nil_append, execAll,
        exec, key, value', Machine.withContext, ok_bind, assigns]

theorem follows_bind {next : Nat} {m now : Machine} {context : Context} {output : Output}
    (follows : Follows next m now (context, output)) (plan : LoopPlan) (entry : Value × Value)
    (round : LoopState) :
    Follows next m { now with context := plan.bind entry round now.context }
      (plan.bind entry round context, output) where
  output := follows.output
  alike := plan.alike_bind entry round follows.alike
  restorable := follows.restorable.trans (plan.restorable_bind entry round now.context)
  locals := follows.locals

/-- What the statements of a body say, whatever the machine they start from. -/
def BodyMatches (env : Environment) (includer : Code.Includer) (next : Nat) (content : List Code.Stmt)
    (meaning : Context → Output → Except Failure (Context × Output)) : Prop :=
  ∀ (m : Machine) (context : Context) (output : Output), Agrees m (context, output) →
    Matches (Follows next m) (execAll env includer m content) (meaning context output)

section Rounds

variable {env : Environment} {includer : Code.Includer} {plan : LoopPlan} {next : Nat}
  {content : List Code.Stmt} {meaning : Context → Output → Except Failure (Context × Output)}

/-- One round: the locals of its entry, then its variables, then the body. The locals between those of the
entry and those of the body are kept. -/
theorem round_matches {l : LoopLocals} (body : BodyMatches env includer l.behind content meaning)
    (valueAt : l.value = l.key + 1) (behindAt : l.value < l.behind) {start m : Machine} {context : Context}
    {output : Output} (follows : Follows l.key start m (context, output)) (entry : Value × Value)
    {round : LoopState} {assigning : Code.Stmt}
    (assigns : ∀ now : Machine, (∀ k, l.value < k → now.locals.lookup k = m.locals.lookup k) →
      exec env includer now assigning = .ok (now.withContext (·.set "loop" round.toValue))) :
    Matches
      (fun now result => Follows l.key start now result ∧
        ∀ k, l.value < k → k < l.behind → now.locals.lookup k = m.locals.lookup k)
      (execAll env includer ((m.hold l.key (.value entry.1)).hold l.value (.value entry.2))
        (plan.bindings l ++ assigning :: content))
      (meaning (plan.bind entry round context) output) := by
  let bound := (m.hold l.key (.value entry.1)).hold l.value (.value entry.2)
  have held : Follows l.key start bound (context, output) :=
    (follows.hold (Nat.le_refl _) _).hold (by omega) _
  have key : bound.value l.key = entry.1 := by
    have different : l.key ≠ l.value := by omega
    simp only [Machine.value, bound, lookup_hold, if_neg different, if_true]
  have value : bound.value l.value = entry.2 := by
    simp only [Machine.value, bound, lookup_hold, if_true]
  have above (k : Nat) (large : l.value < k) : bound.locals.lookup k = m.locals.lookup k := by
    have fresh : k ≠ l.key ∧ k ≠ l.value := by omega
    simp only [bound, lookup_hold, if_neg fresh.1, if_neg fresh.2]
  have started := plan.follows_bind held entry round
  rw [plan.execAll_bindings l env includer key value
    (fun context => assigns { bound with context := context } above)]
  refine (body _ _ _ started.toAgrees).mono fun now result ran => ?_
  refine ⟨started.trans ran (by omega), fun k large small => ?_⟩
  rw [ran.locals k small]
  exact above k large

theorem each_matches (kept : plan.keepsState = true)
    (body : BodyMatches env includer (plan.locals next).behind content meaning) (length : Nat)
    (entries : List (Value × Value)) (index : Nat) (m : Machine) (context : Context) (output : Output)
    (agrees : Agrees m (context, output)) (state : m.state (plan.locals next).state = ⟨index, length⟩) :
    Matches (Follows (plan.locals next).key m)
      (entries.foldlM (fun m entry =>
        execAll env includer
          ((m.hold (plan.locals next).key (.value entry.1)).hold (plan.locals next).value (.value entry.2))
          (plan.bindings (plan.locals next) ++ .assignState (plan.locals next).state :: content
            ++ [.advance (plan.locals next).state])) m)
      (rounds plan length meaning index context output entries) := by
  obtain ⟨-, -, -, -, -, -, valueAt, stateAt, -, behindAt⟩ := plan.locals_ordered next
  simp only [kept, if_true] at behindAt
  generalize plan.locals next = l at *
  induction entries generalizing index m context output with
  | nil => exact .ok (.refl _ agrees)
  | cons entry entries ih =>
      rw [List.foldlM_cons, rounds, Code.execAll_append, bind_assoc]
      have assigns (now : Machine) (same : ∀ k, l.value < k → now.locals.lookup k = m.locals.lookup k) :
          exec env includer now (.assignState l.state) =
            .ok (now.withContext (·.set "loop" (LoopState.mk index length).toValue)) := by
        have there : now.state l.state = ⟨index, length⟩ := by
          rw [← state]
          simp only [Machine.state, same l.state (by omega)]
        simp only [exec, there]
      refine (round_matches body valueAt (by omega) (.refl _ agrees) entry assigns).bind fun now result ran => ?_
      obtain ⟨context', output'⟩ := result
      obtain ⟨reached, above⟩ := ran
      -- The round that is kept moves on behind the body.
      let moved := now.hold l.state (.state (now.state l.state).advance)
      have movedOn : Follows l.key m moved (context', output') := reached.hold (by omega) _
      have there : now.state l.state = ⟨index, length⟩ := by
        rw [← state]
        simp only [Machine.state, above l.state (by omega) (by omega)]
      have next : moved.state l.state = ⟨index + 1, length⟩ := by
        simp only [Machine.state, moved, lookup_hold, if_true]
        exact congrArg LoopState.advance there
      have later := ih (index + 1) moved context' output' movedOn.toAgrees next
      exact later.mono fun _ _ follows => movedOn.trans follows (Nat.le_refl _)

theorem eachNumbered_matches (numbered : plan.keepsState = false)
    (body : BodyMatches env includer (plan.locals next).behind content meaning) (length : Nat)
    (entries : List (Value × Value)) (index : Nat) (m : Machine) (context : Context) (output : Output)
    (agrees : Agrees m (context, output)) (count : m.count (plan.locals next).state = length) :
    Matches (Follows (plan.locals next).key m)
      ((entries.zipIdx index).foldlM (fun m entry =>
        execAll env includer
          (((m.hold (plan.locals next).index (.count entry.2)).hold (plan.locals next).key
            (.value entry.1.1)).hold (plan.locals next).value (.value entry.1.2))
          (plan.bindings (plan.locals next)
            ++ .assignRound (plan.locals next).index (plan.locals next).state :: content)) m)
      (rounds plan length meaning index context output entries) := by
  obtain ⟨-, -, -, -, -, -, valueAt, stateAt, indexAt, behindAt⟩ := plan.locals_ordered next
  simp only [numbered, Bool.false_eq_true, if_false] at behindAt
  generalize plan.locals next = l at *
  induction entries generalizing index m context output with
  | nil => exact .ok (.refl _ agrees)
  | cons entry entries ih =>
      rw [List.zipIdx_cons, List.foldlM_cons, rounds]
      let counted := m.hold l.index (.count index)
      have held : Follows l.key m counted (context, output) := (Follows.refl _ agrees).hold (by omega) _
      have number : counted.count l.index = index := by
        simp only [Machine.count, counted, lookup_hold, if_true]
      have total : counted.count l.state = length := by
        have different : l.state ≠ l.index := by omega
        rw [← count]
        simp only [Machine.count, counted, lookup_hold, if_neg different]
      have assigns (now : Machine) (same : ∀ k, l.value < k → now.locals.lookup k = counted.locals.lookup k) :
          exec env includer now (.assignRound l.index l.state) =
            .ok (now.withContext (·.set "loop" (LoopState.mk index length).toValue)) := by
        have numberThere : now.count l.index = index := by
          rw [← number]
          simp only [Machine.count, same l.index (by omega)]
        have totalThere : now.count l.state = length := by
          rw [← total]
          simp only [Machine.count, same l.state (by omega)]
        simp only [exec, numberThere, totalThere]
      refine (round_matches body valueAt (by omega) held entry assigns).bind fun now result ran => ?_
      obtain ⟨context', output'⟩ := result
      obtain ⟨reached, above⟩ := ran
      have totalNow : now.count l.state = length := by
        rw [← total]
        simp only [Machine.count, above l.state (by omega) (by omega)]
      have later := ih (index + 1) now context' output' reached.toAgrees totalNow
      exact later.mono fun _ _ follows => reached.trans follows (Nat.le_refl _)

theorem repetition_matches (body : BodyMatches env includer (plan.locals next).behind content meaning)
    {m : Machine} {entries : List (Value × Value)} (held : m.entries (plan.locals next).entries = entries)
    {context : Context} {output : Output} (agrees : Agrees m (context, output)) :
    Matches (Follows (plan.locals next).key m)
      (execAll env includer m (plan.repetition (plan.locals next) content))
      (rounds plan entries.length meaning 0 context output entries) := by
  obtain ⟨-, -, -, -, keyAt, -, -, stateAt, -, -⟩ := plan.locals_ordered next
  have different : (plan.locals next).entries ≠ (plan.locals next).state := by omega
  unfold repetition
  split
  · rename_i kept
    let start := m.hold (plan.locals next).state (.state (LoopState.start entries.length))
    have entriesThere : start.entries (plan.locals next).entries = entries := by
      rw [← held]
      simp only [Machine.entries, start, lookup_hold, if_neg different]
    have stateThere : start.state (plan.locals next).state = ⟨0, entries.length⟩ := by
      simp only [Machine.state, start, lookup_hold, if_true, LoopState.start]
    have opened : Follows (plan.locals next).key m start (context, output) :=
      (Follows.refl _ agrees).hold (by omega) _
    have ran := each_matches kept body entries.length entries 0 start context output opened.toAgrees
      stateThere
    rw [execAll, exec, held, ok_bind, Code.execAll_singleton, exec, entriesThere]
    exact ran.mono fun _ _ follows => opened.trans follows (Nat.le_refl _)
  · rename_i numbered
    let start := m.hold (plan.locals next).state (.count entries.length)
    have entriesThere : start.entries (plan.locals next).entries = entries := by
      rw [← held]
      simp only [Machine.entries, start, lookup_hold, if_neg different]
    have countThere : start.count (plan.locals next).state = entries.length := by
      simp only [Machine.count, start, lookup_hold, if_true]
    have opened : Follows (plan.locals next).key m start (context, output) :=
      (Follows.refl _ agrees).hold (by omega) _
    have ran := eachNumbered_matches (by simpa using numbered) body entries.length entries 0 start context
      output opened.toAgrees countThere
    rw [execAll, exec, held, ok_bind, Code.execAll_singleton, exec, entriesThere]
    exact ran.mono fun _ _ follows => opened.trans follows (Nat.le_refl _)

end Rounds

/-- The machine that has noted whether there are entries, if the loop has a branch for none. -/
def noted (plan : LoopPlan) (l : LoopLocals) (entries : List (Value × Value)) (m : Machine) : Machine :=
  if plan.hasElse then m.hold l.empty (.flag entries.isEmpty) else m

theorem execAll_noting (plan : LoopPlan) (l : LoopLocals) (env : Environment) (includer : Code.Includer)
    {m : Machine} {entries : List (Value × Value)} (held : m.entries l.entries = entries)
    (rest : List Code.Stmt) :
    execAll env includer m ((if plan.hasElse then [.holdEmptiness l.empty l.entries] else []) ++ rest) =
      execAll env includer (plan.noted l entries m) rest := by
  unfold noted
  split
  · simp only [List.cons_append, List.nil_append, execAll, exec, held, ok_bind]
  · rfl

theorem lookup_noted (plan : LoopPlan) (l : LoopLocals) (entries : List (Value × Value)) (m : Machine)
    {k : Nat} (other : k ≠ l.empty) : (plan.noted l entries m).locals.lookup k = m.locals.lookup k := by
  unfold noted
  split
  · rw [lookup_hold, if_neg other]
  · rfl

theorem context_noted (plan : LoopPlan) (l : LoopLocals) (entries : List (Value × Value)) (m : Machine) :
    (plan.noted l entries m).context = m.context := by
  unfold noted
  split <;> rfl

theorem output_noted (plan : LoopPlan) (l : LoopLocals) (entries : List (Value × Value)) (m : Machine) :
    (plan.noted l entries m).output = m.output := by
  unfold noted
  split <;> rfl

theorem lookup_opened (plan : LoopPlan) (l : LoopLocals) (m : Machine) {k : Nat} (other : k ≠ l.mark) :
    (plan.opened l m).locals.lookup k = m.locals.lookup k := by
  unfold opened
  split
  · exact (lookup_hold m l.mark k _).trans (if_neg other)
  · rfl

theorem mark_opened {plan : LoopPlan} (shares : plan.sharesScope = true) (l : LoopLocals) (m : Machine) :
    (plan.opened l m).locals.lookup l.mark = some (.checkpoint m.context.mark) := by
  unfold opened
  rw [if_pos shares]
  exact (lookup_hold m l.mark l.mark _).trans (if_pos rfl)

/-- A loop follows its meaning: its rounds do, and its closing gives back the variables of its opening. -/
theorem loop_matches {env : Environment} {templates : List (String × List Code.Stmt)} {includer : Code.Includer}
    {plan : LoopPlan} {next : Nat} {content last : List Code.Stmt}
    {meaning otherwise : Context → Output → Except Failure (Context × Output)}
    (body : BodyMatches (env.withTemplates templates) includer (plan.locals next).behind content meaning)
    (other : plan.hasElse = true → BodyMatches (env.withTemplates templates) includer next last otherwise)
    (iterable : Code.Expr) {m : Machine} {context : Context} {output : Output}
    (agrees : Agrees m (context, output)) :
    Matches (Follows next m)
      (execAll (env.withTemplates templates) includer m (plan.statements (plan.locals next) iterable content last))
      (do
        let v ← Code.eval env context iterable
        let entries ← v.entries
        let (_, output) ← rounds plan entries.length meaning 0 context output entries
        if plan.hasElse && entries.isEmpty then otherwise context output else return (context, output)) := by
  obtain ⟨markAt, entriesAt, sharedAt, emptyAt, keyAt, notedAt, -, -, -, -⟩ := plan.locals_ordered next
  rw [LoopPlan.statements]
  have openedAlike := plan.alike_opened (plan.locals next) agrees.alike
  simp only [List.cons_append, List.nil_append, List.append_assoc]
  rw [execAll, exec_opening, ok_bind, execAll, exec, Code.eval_congr env templates openedAlike]
  simp only [bind_assoc, pure_eq_ok, ok_bind]
  refine Matches.bind_same fun v => Matches.bind_same fun entries => ?_
  let holding := (plan.opened (plan.locals next) m).hold (plan.locals next).entries (.entries entries)
  have held : holding.entries (plan.locals next).entries = entries := by
    simp only [Machine.entries, holding, lookup_hold, if_true]
  rw [plan.execAll_noting _ _ _ held, Code.execAll_append]
  let start := plan.noted (plan.locals next) entries holding
  have startContext : start.context = (plan.opened (plan.locals next) m).context := plan.context_noted _ _ _
  have startOutput : start.output = output :=
    (plan.output_noted _ _ holding).trans ((plan.output_opened _ m).trans agrees.output)
  have startEntries : start.entries (plan.locals next).entries = entries := by
    have different : (plan.locals next).entries ≠ (plan.locals next).empty := by omega
    rw [← held]
    simp only [Machine.entries, start, plan.lookup_noted _ _ _ different]
  refine (repetition_matches body startEntries ⟨startOutput, startContext ▸ openedAlike⟩).bind
    fun now result follows => ?_
  obtain ⟨context', output'⟩ := result
  -- The locals of the loop itself stand below those of its rounds, so the rounds have kept them.
  have kept (k : Nat) (small : k < (plan.locals next).key) (notEntries : k ≠ (plan.locals next).entries)
      (notEmpty : k ≠ (plan.locals next).empty) :
      now.locals.lookup k = (plan.opened (plan.locals next) m).locals.lookup k := by
    rw [follows.locals k small, plan.lookup_noted _ _ _ notEmpty]
    exact (lookup_hold _ _ k _).trans (if_neg notEntries)
  have roundsRestorable : Restorable (plan.opened (plan.locals next) m).context now.context :=
    startContext ▸ follows.restorable
  obtain ⟨closed, closing, closedAlike, closedRestorable⟩ :=
    plan.exec_closing (plan.locals next) (env.withTemplates templates) includer roundsRestorable
      (fun shares => by
        have before := sharedAt shares
        rw [kept _ (by omega) (by omega) (by omega), mark_opened shares])
  have ended : Follows next m { now with context := closed } (context, output') := by
    refine ⟨⟨follows.output, fun name => (closedAlike name).trans (agrees.alike name)⟩, closedRestorable, ?_⟩
    intro k small
    rw [← plan.lookup_opened (plan.locals next) m (by omega : k ≠ _)]
    exact kept k (by omega) (by omega) (by omega)
  rw [execAll, closing, ok_bind]
  cases hasElse : plan.hasElse with
  | false => exact .ok ended
  | true =>
      have flag : Machine.flag { now with context := closed } (plan.locals next).empty = entries.isEmpty := by
        simp only [Machine.flag, follows.locals (plan.locals next).empty (notedAt hasElse), start, noted,
          hasElse, if_true, lookup_hold]
      simp only [if_true, Bool.true_and, Code.execAll_singleton, exec, flag]
      cases entries.isEmpty with
      | false => exact .ok ended
      | true =>
          have later := other hasElse _ _ _ ended.toAgrees
          exact later.mono fun _ _ follows => ended.trans follows (Nat.le_refl _)

end LoopPlan

mutual

theorem Step.le_code (next : Nat) (step : Step) : next ≤ (step.code next).2 := by
  cases step with
  | text | output => exact Nat.le_refl _
  | assign | inclusion => exact Nat.le_succ _
  | choose branches => exact branches.le_code .holds next
  | switch subject branches => exact Nat.le_trans (Nat.le_succ _) (branches.le_code (.equals next) (next + 1))
  | loop plan iterable body otherwise =>
      have content := Nat.le_trans (plan.le_behind next) (Step.le_codeAll (plan.locals next).behind body)
      simp only [Step.code]
      split
      · exact Nat.le_trans content (Step.le_codeAll _ otherwise)
      · exact content
  | nested body => exact Step.le_codeAll next body
termination_by structural step

theorem Step.le_codeAll (next : Nat) (steps : List Step) : next ≤ (Step.codeAll next steps).2 := by
  cases steps with
  | nil => exact Nat.le_refl _
  | cons step steps => exact Nat.le_trans (step.le_code next) (Step.le_codeAll _ steps)
termination_by structural steps

theorem Branches.le_code (test : Code.Expr → Code.Test) (next : Nat) (branches : Branches) :
    next ≤ (branches.code test next).2 := by
  cases branches with
  | done => exact Nat.le_refl _
  | otherwise body => exact Step.le_codeAll next body
  | orElse value body rest => exact Nat.le_trans (Step.le_codeAll next body) (rest.le_code test _)
termination_by structural branches

end

theorem execAll_chainStatements (env : Environment) (includer : Code.Includer) (m : Machine)
    (chain : Code.Chain) :
    execAll env includer m (chainStatements chain) = Code.execChain env includer m chain := by
  cases chain with
  | done => rfl
  | otherwise body => rw [chainStatements, Code.execAll_singleton, exec, Code.execChain]
  | orElse test body rest => rw [chainStatements, Code.execAll_singleton, exec, Code.execChain]

section Meaning

variable {env : Environment} {templates : List (String × List Code.Stmt)} {concrete meant : Code.Includer}

mutual

theorem Step.code_matches (includes : IncludesAlike concrete meant) (next : Nat) (step : Step) :
    LoopPlan.BodyMatches (env.withTemplates templates) concrete next (step.code next).1
      (fun context output => step.run env meant context output) := by
  intro m context output agrees
  cases step with
  | text text =>
      exact .ok ⟨⟨congrArg (·.writeText text) agrees.output, agrees.alike⟩, .refl _, fun _ _ => rfl⟩
  | output safe value =>
      simp only [Step.code, Step.run, Code.execAll_singleton]
      cases safe <;> simp only [Bool.false_eq_true, if_true, if_false, exec,
        Code.eval_congr env templates agrees.alike, agrees.output] <;>
        exact Matches.bind_same fun v => .ok ⟨⟨rfl, agrees.alike⟩, .refl _, fun _ _ => rfl⟩
  | assign name value =>
      simp only [Step.code, Step.run, execAll, exec, Code.eval_congr env templates agrees.alike, bind_assoc,
        pure_eq_ok, ok_bind]
      refine Matches.bind_same fun v => ?_
      have held : (m.hold next (.value v)).value next = v := by
        simp only [Machine.value, lookup_hold, if_true]
      rw [held]
      exact .ok (((Follows.refl next agrees).hold (Nat.le_refl _) (.value v)).set name v)
  | inclusion name =>
      simp only [Step.code, Step.run, execAll, exec, Code.eval_congr env templates agrees.alike, bind_assoc,
        pure_eq_ok, ok_bind]
      refine Matches.bind_same fun v => ?_
      have held : (m.hold next (.value v)).value next = v := by
        simp only [Machine.value, lookup_hold, if_true]
      have start := (Follows.refl next agrees).hold (Nat.le_refl _) (.value v)
      rw [held, ← bind_pure (meant v context output)]
      have included := includes v (m.hold next (.value v)).context context output agrees.alike
      rw [show (m.hold next (.value v)).output = output from agrees.output]
      refine included.bind fun now result same => .ok ?_
      exact ⟨⟨same.1, same.2.1⟩, same.2.2, start.locals⟩
  | choose branches =>
      simp only [Step.code, Step.run, execAll_chainStatements]
      refine Branches.code_matches includes .holds Value.truthy next agrees (fun e => ?_) branches
      simp only [Code.Test.passes, Code.eval_congr env templates agrees.alike]
  | switch subject branches =>
      simp only [Step.code, Step.run, execAll, exec, Code.eval_congr env templates agrees.alike, bind_assoc,
        pure_eq_ok, ok_bind, execAll_chainStatements]
      refine Matches.bind_same fun v => ?_
      have held : (m.hold next (.value v)).value next = v := by
        simp only [Machine.value, lookup_hold, if_true]
      have start := (Follows.refl next agrees).hold (Nat.le_refl _) (.value v)
      have ran := Branches.code_matches includes (.equals next) v.looselyEqual (next + 1) start.toAgrees
        (fun e => by simp only [Code.Test.passes, Code.eval_congr env templates start.alike, held]) branches
      exact ran.mono fun _ _ follows => start.trans follows (Nat.le_succ _)
  | loop plan iterable body otherwise =>
      let content := Step.codeAll (plan.locals next).behind body
      have last : plan.hasElse = true → LoopPlan.BodyMatches (env.withTemplates templates) concrete next
          (if plan.hasElse then Step.codeAll content.2 otherwise else ([], content.2)).1
          (fun context output => Step.runAll env meant context output otherwise) := by
        intro hasElse m context output agrees
        rw [if_pos hasElse]
        have ran := Step.codeAll_matches includes content.2 otherwise m context output agrees
        exact ran.mono fun _ _ follows =>
          follows.mono (Nat.le_trans (plan.le_behind next) (Step.le_codeAll _ body))
      have whole := LoopPlan.loop_matches (Step.codeAll_matches includes _ body) last iterable agrees
      simpa only [Step.code, Step.run] using whole
  | nested body => exact .ok (.refl next agrees)
termination_by structural step

theorem Step.codeAll_matches (includes : IncludesAlike concrete meant) (next : Nat) (steps : List Step) :
    LoopPlan.BodyMatches (env.withTemplates templates) concrete next (Step.codeAll next steps).1
      (fun context output => Step.runAll env meant context output steps) := by
  intro m context output agrees
  cases steps with
  | nil => exact .ok (.refl next agrees)
  | cons step steps =>
      simp only [Step.codeAll, Step.runAll, Code.execAll_append]
      refine (step.code_matches includes next m context output agrees).bind fun middle result first => ?_
      have rest := Step.codeAll_matches includes (step.code next).2 steps middle _ _ first.toAgrees
      exact rest.mono fun _ _ second => first.trans second (step.le_code next)
termination_by structural steps

/-- The chain of branches follows their meaning, if its tests decide as it is meant. -/
theorem Branches.code_matches (includes : IncludesAlike concrete meant) (test : Code.Expr → Code.Test)
    (passes : Value → Bool) (next : Nat) {m : Machine} {context : Context} {output : Output}
    (agrees : Agrees m (context, output)) (decides : ∀ e, (test e).passes (env.withTemplates templates) m =
      (do let v ← Code.eval env context e; return passes v)) (branches : Branches) :
    Matches (Follows next m)
      (Code.execChain (env.withTemplates templates) concrete m (branches.code test next).1)
      (branches.run env meant context output passes) := by
  cases branches with
  | done => exact .ok (.refl next agrees)
  | otherwise body => exact Step.codeAll_matches includes next body m context output agrees
  | orElse value body rest =>
      simp only [Branches.code, Branches.run, Code.execChain, decides, bind_assoc, pure_eq_ok, ok_bind]
      refine Matches.bind_same fun v => ?_
      cases passes v with
      | true => exact Step.codeAll_matches includes next body m context output agrees
      | false =>
          have later := Branches.code_matches includes test passes (Step.codeAll next body).2 agrees decides rest
          exact later.mono fun _ _ follows => follows.mono (Step.le_codeAll next body)
termination_by structural branches

end

end Meaning

/-- The program of a template by its name. -/
def program (table : List (String × List Step)) (name : String) : Except Failure (List Step) :=
  match table.lookup name with
  | some steps => .ok steps
  | none => .error (.templateNotFound name)

/-- The meaning of inclusion, up to `remaining` levels deep. -/
def includeProgram (env : Environment) (table : List (String × List Step)) : Nat → Code.Includer
  | 0 => fun name _ _ => do
    let _ ← program table name.display
    .error (.includeDepth name.display)
  | remaining + 1 => fun name context output => do
    let steps ← program table name.display
    Step.runAll env (includeProgram env table remaining) context output steps

theorem lookup_mapped {α β : Type} (f : α → β) (table : List (String × α)) (name : String) :
    (table.map fun entry => (entry.1, f entry.2)).lookup name = (table.lookup name).map f := by
  induction table with
  | nil => rfl
  | cons entry table ih =>
      obtain ⟨key, value⟩ := entry
      rw [List.map_cons, lookup_entry, lookup_entry, ih]
      split <;> rfl

theorem template_withPrograms (env : Environment) (table : List (String × List Step)) (name : String) :
    (env.withPrograms table).template name = program table name >>= fun steps => .ok (Step.body steps) := by
  simp only [Environment.template, Environment.withPrograms, lookup_mapped, program]
  cases table.lookup name <;> rfl

theorem runBody_codeAll (env : Environment) (templates : List (String × List Code.Stmt))
    {concrete meant : Code.Includer} (includes : IncludesAlike concrete meant) (next : Nat) (steps : List Step)
    {left right : Context} (alike : Alike left right) (output : Output) :
    Matches (fun now meaning => now.2 = meaning.2 ∧ Alike now.1 meaning.1 ∧ Restorable left now.1)
      ((env.withTemplates templates).runBody concrete (Step.codeAll next steps).1 left output)
      (Step.runAll env meant right output steps) := by
  have body : LoopPlan.BodyMatches (env.withTemplates templates) concrete next (Step.codeAll next steps).1
      (fun context output => Step.runAll env meant context output steps) := Step.codeAll_matches includes next steps
  have ran := body { context := left, output := output } right output ⟨rfl, alike⟩
  rw [← bind_pure (Step.runAll env meant right output steps)]
  exact ran.bind fun now meaning follows => .ok ⟨follows.output, follows.alike, follows.restorable⟩

theorem runBody_matches (env : Environment) (table : List (String × List Step))
    {concrete meant : Code.Includer} (includes : IncludesAlike concrete meant) (steps : List Step)
    {left right : Context} (alike : Alike left right) (output : Output) :
    Matches (fun now meaning => now.2 = meaning.2 ∧ Alike now.1 meaning.1 ∧ Restorable left now.1)
      ((env.withPrograms table).runBody concrete (Step.body steps) left output)
      (Step.runAll env meant right output steps) :=
  runBody_codeAll env _ includes 0 steps alike output

theorem includes_alike (env : Environment) (table : List (String × List Step)) (depth : Nat) :
    IncludesAlike ((env.withPrograms table).includer depth) (includeProgram env table depth) := by
  induction depth with
  | zero =>
      intro name left right output _
      simp only [Environment.includer, includeProgram, template_withPrograms, bind_assoc, ok_bind]
      exact Matches.bind_same fun _ => .error _
  | succ depth ih =>
      intro name left right output alike
      simp only [Environment.includer, includeProgram, template_withPrograms, bind_assoc, ok_bind]
      exact Matches.bind_same fun steps => runBody_matches env table ih steps alike output

theorem rounds_plain (plan : LoopPlan) (length : Nat)
    (body : Context → Output → Except Failure (Context × Output)) (index : Nat) (context : Context)
    (output : Output) (entries : List (Value × Value)) :
    rounds plan.plain length body index context output entries =
      rounds plan length body index context output entries := by
  induction entries generalizing index context output with
  | nil => rfl
  | cons entry entries ih =>
      simp only [rounds, ih]
      rfl

mutual

theorem Step.run_plain (env : Environment) (includer : Code.Includer) (context : Context) (output : Output)
    (step : Step) : step.plain.run env includer context output = step.run env includer context output := by
  cases step with
  | text | output | assign | inclusion | nested => rfl
  | choose branches => exact branches.run_plain env includer context output _
  | switch subject branches =>
      simp only [Step.plain, Step.run]
      exact congrArg _ (funext fun v => branches.run_plain env includer context output _)
  | loop plan iterable body otherwise =>
      simp only [Step.plain, Step.run, rounds_plain, Step.runAll_plain env includer _ _ body,
        Step.runAll_plain env includer _ _ otherwise]
      rfl
termination_by structural step

theorem Step.runAll_plain (env : Environment) (includer : Code.Includer) (context : Context)
    (output : Output) (steps : List Step) :
    Step.runAll env includer context output (Step.plainAll steps) =
      Step.runAll env includer context output steps := by
  cases steps with
  | nil => rfl
  | cons step steps =>
      simp only [Step.plainAll, Step.runAll, step.run_plain, Step.runAll_plain env includer _ _ steps]
termination_by structural steps

theorem Branches.run_plain (env : Environment) (includer : Code.Includer) (context : Context)
    (output : Output) (passes : Value → Bool) (branches : Branches) :
    branches.plain.run env includer context output passes =
      branches.run env includer context output passes := by
  cases branches with
  | done => rfl
  | otherwise body => exact Step.runAll_plain env includer context output body
  | orElse value body rest =>
      simp only [Branches.plain, Branches.run, Step.runAll_plain env includer context output body,
        rest.run_plain env includer context output passes]
termination_by structural branches

end

/-- Templates with every loop in its plain form. -/
def plainTable (table : List (String × List Step)) : List (String × List Step) :=
  table.map fun entry => (entry.1, Step.plainAll entry.2)

theorem includeProgram_plain (env : Environment) (table : List (String × List Step)) (depth : Nat) :
    includeProgram env (plainTable table) depth = includeProgram env table depth := by
  have found (name : String) :
      program (plainTable table) name = program table name >>= fun steps => .ok (Step.plainAll steps) := by
    simp only [program, plainTable, lookup_mapped]
    cases table.lookup name <;> rfl
  induction depth with
  | zero => simp only [includeProgram, found, bind_assoc, ok_bind]
  | succ depth ih => simp only [includeProgram, found, bind_assoc, ok_bind, ih, Step.runAll_plain]

/-- How loops get their scopes and rounds does not show. Two programs that differ only in that, in the
templates they include as well, end with the same failure, or with the same output and variables. -/
theorem loop_forms_render_alike (env : Environment) {left right : List (String × List Step)}
    (tables : plainTable left = plainTable right) {first second : List Step}
    (programs : Step.plainAll first = Step.plainAll second) (depth : Nat) (context : Context)
    (output : Output) :
    Matches (fun a b => a.2 = b.2 ∧ Alike a.1 b.1)
      ((env.withPrograms left).runBody ((env.withPrograms left).includer depth) (Step.body first)
        context output)
      ((env.withPrograms right).runBody ((env.withPrograms right).includer depth) (Step.body second)
        context output) := by
  have itself : Alike context context := fun _ => rfl
  have one := runBody_matches env left (includes_alike env left depth) first itself output
  have other := runBody_matches env right (includes_alike env right depth) second itself output
  have meanings : Step.runAll env (includeProgram env left depth) context output first =
      Step.runAll env (includeProgram env right depth) context output second := by
    rw [← Step.runAll_plain env _ _ _ first, ← Step.runAll_plain env _ _ _ second, programs,
      ← includeProgram_plain env left, ← includeProgram_plain env right, tables]
  rw [meanings] at one
  exact one.compare other fun a b meaning same same' =>
    ⟨same.1.trans same'.1.symm, fun name => (same.2.1 name).trans (same'.2.1 name).symm⟩

/-- A loop over cells that writes to a variable of the loop around it and has a template of its own included. -/
def cellLoop (keepsState sharesScope : Bool) : Step :=
  .loop ⟨some "index", "x", keepsState, sharesScope, true⟩ (.variable "row")
    [.output false (.variable "x"), .assign "row" (.constant .null), .inclusion (.constant (.string "cell"))]
    [.text "none"]

def rowLoop (keepsState sharesScope : Bool) : Step :=
  .loop ⟨none, "row", true, false, false⟩ (.variable "rows")
    [cellLoop keepsState sharesScope, .output true (.variable "row")] []

def rows : Context :=
  .ofGlobals [("rows", .list [.list [.bool true]])]

theorem cellLoop_forms_render_alike :
    plainTable [("cell", [cellLoop true false])] = plainTable [("cell", [cellLoop false true])] ∧
      Step.plainAll [rowLoop true false] = Step.plainAll [rowLoop false true] ∧
      Matches (fun a b => a.2 = b.2 ∧ Alike a.1 b.1)
        ((Environment.withPrograms {} [("cell", [cellLoop true false])]).runBody
          ((Environment.withPrograms {} [("cell", [cellLoop true false])]).includer 64)
          (Step.body [rowLoop true false]) rows {})
        ((Environment.withPrograms {} [("cell", [cellLoop false true])]).runBody
          ((Environment.withPrograms {} [("cell", [cellLoop false true])]).includer 64)
          (Step.body [rowLoop false true]) rows {}) := by
  have tables : plainTable [("cell", [cellLoop true false])] = plainTable [("cell", [cellLoop false true])] := rfl
  have programs : Step.plainAll [rowLoop true false] = Step.plainAll [rowLoop false true] := rfl
  exact ⟨tables, programs, loop_forms_render_alike {} tables programs 64 rows {}⟩

end Compile

end Templating
