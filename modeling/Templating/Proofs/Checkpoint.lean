import Templating.Render.Scope
import Templating.Proofs.Keyed

/-! # Rolling back to a checkpoint

One journal serves all open checkpoints and all scopes. What a run of well-nested actions leaves behind is
described by `Context.Restorable`: the enclosing scopes are untouched, and the writes that the run put into
the journal, undone from the latest on, turn the innermost scope back into what it was. Every action keeps
this, so rolling back to a checkpoint gives the context before it.
-/

namespace Templating

namespace Scope

@[simp] theorem get?_set (scope : Scope) (name other : String) (value : Value) :
    (scope.set name value).get? other = if other = name then some value else scope.get? other :=
  lookup_insertByKey name other value scope

@[simp] theorem get?_erase (scope : Scope) (name other : String) :
    (scope.erase name).get? other = if other = name then none else scope.get? other :=
  lookup_filter_ne name other scope

@[simp] theorem get?_restore (scope : Scope) (name other : String) (previous : Option Value) :
    (scope.restore name previous).get? other = if other = name then previous else scope.get? other := by
  cases previous with
  | none => exact get?_erase scope name other
  | some value => exact get?_set scope name other value

theorem ascending_set {scope : Scope} (ascending : Ascending scope) (name : String) (value : Value) :
    Ascending (scope.set name value) :=
  ascending.insertByKey name value

theorem ascending_erase {scope : Scope} (ascending : Ascending scope) (name : String) :
    Ascending (scope.erase name) :=
  ascending.filter _

theorem ascending_restore {scope : Scope} (ascending : Ascending scope) (name : String)
    (previous : Option Value) : Ascending (scope.restore name previous) := by
  cases previous with
  | none => exact ascending_erase ascending name
  | some value => exact ascending_set ascending name value

end Scope

namespace Context

theorem undo_cons (depth : Nat) (write : Write) (writes : List Write) (scope : Scope) :
    undo depth (write :: writes) scope =
      undo depth writes
        (if write.depth = depth then scope.restore write.name write.previous else scope) := by
  by_cases here : write.depth = depth <;> simp [undo, here]

theorem undo_append (depth : Nat) (later earlier : List Write) (scope : Scope) :
    undo depth (later ++ earlier) scope = undo depth earlier (undo depth later scope) := by
  simp only [undo, List.filter_append, List.foldl_append]

theorem undo_deeper {depth : Nat} {writes : List Write} (deeper : ∀ write ∈ writes, depth < write.depth)
    (scope : Scope) : undo depth writes scope = scope := by
  induction writes with
  | nil => rfl
  | cons write writes ih =>
      have elsewhere : write.depth ≠ depth := Nat.ne_of_gt (deeper write List.mem_cons_self)
      rw [undo_cons, if_neg elsewhere]
      exact ih fun write member => deeper write (List.mem_cons_of_mem _ member)

theorem get?_undo_congr (depth : Nat) (writes : List Write) {left right : Scope}
    (same : ∀ name, left.get? name = right.get? name) (name : String) :
    (undo depth writes left).get? name = (undo depth writes right).get? name := by
  induction writes generalizing left right with
  | nil => exact same name
  | cons write writes ih =>
      rw [undo_cons, undo_cons]
      refine ih fun other => ?_
      split
      · simp only [Scope.get?_restore, same]
      · exact same other

theorem ascending_undo (depth : Nat) (writes : List Write) {scope : Scope} (ascending : Ascending scope) :
    Ascending (undo depth writes scope) := by
  induction writes generalizing scope with
  | nil => exact ascending
  | cons write writes ih =>
      rw [undo_cons]
      refine ih ?_
      split
      · exact Scope.ascending_restore ascending write.name write.previous
      · exact ascending

/-- What a run from `base` to `now` leaves behind, so that it can be taken back. -/
structure Restorable (base now : Context) : Prop where
  /-- Only the innermost scope was written to. -/
  enclosing : now.enclosing = base.enclosing
  /-- Every checkpoint that was opened is closed. -/
  openCheckpoints : now.openCheckpoints = base.openCheckpoints
  /-- The journal grew by writes to the innermost scope and to scopes inside it. While a checkpoint is
  open, undoing them takes the innermost scope back. -/
  journal : ∃ writes, now.journal = writes ++ base.journal ∧
    (∀ write ∈ writes, base.depth ≤ write.depth) ∧
    (base.openCheckpoints ≠ 0 →
      ∀ name, (undo base.depth writes now.innermost).get? name = base.innermost.get? name)

namespace Restorable

theorem depth {base now : Context} (run : Restorable base now) : now.depth = base.depth := by
  simp only [Context.depth, scopes, run.enclosing, List.length_cons]

theorem refl (context : Context) : Restorable context context where
  enclosing := rfl
  openCheckpoints := rfl
  journal := ⟨[], rfl, by simp, fun _ _ => rfl⟩

theorem trans {base middle now : Context} (first : Restorable base middle)
    (second : Restorable middle now) : Restorable base now := by
  obtain ⟨early, earlyJournal, earlyDepth, earlyUndo⟩ := first.journal
  obtain ⟨late, lateJournal, lateDepth, lateUndo⟩ := second.journal
  refine ⟨second.enclosing.trans first.enclosing, second.openCheckpoints.trans first.openCheckpoints,
    late ++ early, by rw [lateJournal, earlyJournal, List.append_assoc], ?_, ?_⟩
  · intro write member
    rcases List.mem_append.mp member with later | earlier
    · exact first.depth ▸ lateDepth write later
    · exact earlyDepth write earlier
  · intro watched name
    -- The later writes lead back to the middle, from where the earlier ones lead back to the start.
    rw [undo_append, ← earlyUndo watched name]
    refine get?_undo_congr _ _ (fun other => ?_) name
    exact first.depth ▸ lateUndo (first.openCheckpoints ▸ watched) other

/-- A change of the innermost scope that the journal notes with the value it replaced. -/
theorem of_write {base now : Context} (name : String) (enclosing : now.enclosing = base.enclosing)
    (openCheckpoints : now.openCheckpoints = base.openCheckpoints)
    (journal : now.journal = (base.record name (base.innermost.get? name)).journal)
    (elsewhere : ∀ other, other ≠ name → now.innermost.get? other = base.innermost.get? other) :
    Restorable base now := by
  refine ⟨enclosing, openCheckpoints, ?_⟩
  by_cases watched : base.openCheckpoints = 0
  · exact ⟨[], by simp [journal, record, watched], by simp, fun open_ => absurd watched open_⟩
  · refine ⟨[⟨base.depth, name, base.innermost.get? name⟩], by simp [journal, record, watched], by simp, ?_⟩
    intro _ other
    rw [undo_cons, if_pos rfl]
    by_cases same : other = name
    · simp [undo, same]
    · simp [undo, same, elsewhere other same]

theorem set (context : Context) (name : String) (value : Value) :
    Restorable context (context.set name value) := by
  refine of_write name ?_ ?_ rfl fun other different => ?_
  · simp only [Context.set, record]; split <;> rfl
  · simp only [Context.set, record]; split <;> rfl
  · simp only [Context.set, Scope.get?_set, if_neg different]

theorem remove (context : Context) (name : String) : Restorable context (context.remove name) := by
  unfold Context.remove
  split
  · exact refl context
  · rename_i value bound
    refine of_write name ?_ ?_ (by simp only [bound]) fun other different => ?_
    · simp only [record]; split <;> rfl
    · simp only [record]; split <;> rfl
    · simp only [Scope.get?_erase, if_neg different]

/-- A scope that is opened and closed again takes its writes with it. -/
theorem popScope {base now : Context} (run : Restorable base.pushScope now) :
    Restorable base now.popScope := by
  have enclosing : now.enclosing = base.innermost :: base.enclosing := run.enclosing
  have popped : now.popScope = { now with innermost := base.innermost, enclosing := base.enclosing } := by
    simp only [Context.popScope, enclosing]
  obtain ⟨writes, journal, deeper, _⟩ := run.journal
  have inside : ∀ write ∈ writes, base.depth < write.depth := by
    intro write member
    exact Nat.lt_of_succ_le (by simpa [Context.depth, scopes, pushScope] using deeper write member)
  rw [popped]
  refine ⟨rfl, run.openCheckpoints, writes, journal, fun write member => Nat.le_of_lt (inside write member), ?_⟩
  intro _ name
  rw [undo_deeper inside]

/-- Rolling back takes the innermost scope back and leaves everything else as it was. -/
theorem rollback_eq {base now : Context} (run : Restorable base.openCheckpoint now) :
    ∃ scope : Scope, now.rollback base.mark = { base with innermost := scope } ∧
      (∀ name, scope.get? name = base.innermost.get? name) ∧
      (Ascending now.innermost → Ascending scope) := by
  obtain ⟨writes, journal, _, undone⟩ := run.journal
  have journalEq : now.journal = writes ++ base.journal := journal
  have depthEq : now.depth = base.depth := run.depth
  have enclosing : now.enclosing = base.enclosing := run.enclosing
  have checkpoints : now.openCheckpoints = base.openCheckpoints + 1 := run.openCheckpoints
  refine ⟨undo base.depth writes now.innermost, ?_, undone (Nat.succ_ne_zero _), ascending_undo _ _⟩
  have since : now.journal.length - base.journal.length = writes.length := by simp [journalEq]
  have taken : now.journal.take writes.length = writes := by simp [journalEq]
  have left : now.journal.drop writes.length = base.journal := by simp [journalEq]
  simp only [Context.rollback, mark, since, taken, left, modifyScopeAt, depthEq, if_true, checkpoints,
    Nat.add_sub_cancel, enclosing]

theorem rollback {base now : Context} (run : Restorable base.openCheckpoint now) :
    Restorable base (now.rollback base.mark) := by
  obtain ⟨scope, rolledBack, same, _⟩ := run.rollback_eq
  rw [rolledBack]
  exact ⟨rfl, rfl, [], rfl, by simp, fun _ name => same name⟩

end Restorable

/-- Every scope lists its names in ascending order, which is how scopes are built. -/
def ScopesAscend (context : Context) : Prop :=
  ∀ scope ∈ context.scopes, Ascending scope

namespace ScopesAscend

theorem withInnermost {context now : Context} (ascend : context.ScopesAscend)
    (enclosing : now.enclosing = context.enclosing) (innermost : Ascending now.innermost) :
    now.ScopesAscend := by
  intro scope member
  rcases List.mem_cons.mp member with first | outer
  · exact first ▸ innermost
  · exact ascend scope (List.mem_cons_of_mem _ (enclosing ▸ outer))

theorem innermost {context : Context} (ascend : context.ScopesAscend) : Ascending context.innermost :=
  ascend _ List.mem_cons_self

theorem set {context : Context} (ascend : context.ScopesAscend) (name : String) (value : Value) :
    (context.set name value).ScopesAscend :=
  ascend.withInnermost (Restorable.set context name value).enclosing
    (Scope.ascending_set ascend.innermost name value)

theorem remove {context : Context} (ascend : context.ScopesAscend) (name : String) :
    (context.remove name).ScopesAscend := by
  refine ascend.withInnermost (Restorable.remove context name).enclosing ?_
  unfold Context.remove
  split
  · exact ascend.innermost
  · exact Scope.ascending_erase ascend.innermost name

theorem pushScope {context : Context} (ascend : context.ScopesAscend) : context.pushScope.ScopesAscend := by
  intro scope member
  rcases List.mem_cons.mp member with first | outer
  · exact first ▸ List.Pairwise.nil
  · exact ascend scope outer

theorem popScope {context : Context} (ascend : context.ScopesAscend) : context.popScope.ScopesAscend := by
  unfold Context.popScope
  split
  · exact ascend
  · rename_i scope outer enclosing
    intro other member
    exact ascend other (List.mem_cons_of_mem _ (enclosing ▸ member))

theorem openCheckpoint {context : Context} (ascend : context.ScopesAscend) :
    context.openCheckpoint.ScopesAscend :=
  ascend

end ScopesAscend

theorem rollback_mark {base now : Context} (run : Restorable base.openCheckpoint now)
    (baseAscends : base.ScopesAscend) (nowAscends : now.ScopesAscend) : now.rollback base.mark = base := by
  obtain ⟨scope, rolledBack, same, ascending⟩ := run.rollback_eq
  have scopes : scope = base.innermost :=
    (ascending nowAscends.innermost).eq_of_lookup baseAscends.innermost same
  rw [rolledBack, scopes]

/-- What may happen between a checkpoint and the rollback to it. -/
inductive Action where
  /-- Looks a name up. -/
  | read (name : String)
  /-- Gives a name a value. -/
  | set (name : String) (value : Value)
  /-- Takes a name out of the innermost scope. -/
  | remove (name : String)
  /-- Opens a scope, runs the actions and closes the scope. -/
  | inScope (actions : List Action)
  /-- Opens a checkpoint, runs the actions and rolls back to it. -/
  | untilRollback (actions : List Action)

mutual

/-- The context after an action. -/
def Action.run (context : Context) : Action → Context
  | .read _ => context
  | .set name value => context.set name value
  | .remove name => context.remove name
  | .inScope actions => (Action.runAll context.pushScope actions).popScope
  | .untilRollback actions => (Action.runAll context.openCheckpoint actions).rollback context.mark

/-- The context after actions in order. -/
def Action.runAll (context : Context) : List Action → Context
  | [] => context
  | action :: actions => Action.runAll (action.run context) actions

end

mutual

theorem Restorable.run (context : Context) (action : Action) : Restorable context (action.run context) := by
  cases action with
  | read name => exact refl context
  | set name value => exact set context name value
  | remove name => exact remove context name
  | inScope actions => exact (runAll context.pushScope actions).popScope
  | untilRollback actions => exact (runAll context.openCheckpoint actions).rollback
termination_by structural action

theorem Restorable.runAll (context : Context) (actions : List Action) :
    Restorable context (Action.runAll context actions) := by
  cases actions with
  | nil => exact refl context
  | cons action actions => exact (run context action).trans (runAll (action.run context) actions)
termination_by structural actions

end

mutual

theorem ScopesAscend.run {context : Context} (ascend : context.ScopesAscend) (action : Action) :
    (action.run context).ScopesAscend := by
  cases action with
  | read name => exact ascend
  | set name value => exact ascend.set name value
  | remove name => exact ascend.remove name
  | inScope actions => exact (runAll ascend.pushScope actions).popScope
  | untilRollback actions =>
      rw [Action.run, rollback_mark (Restorable.runAll context.openCheckpoint actions) ascend
        (runAll ascend.openCheckpoint actions)]
      exact ascend
termination_by structural action

theorem ScopesAscend.runAll {context : Context} (ascend : context.ScopesAscend) (actions : List Action) :
    (Action.runAll context actions).ScopesAscend := by
  cases actions with
  | nil => exact ascend
  | cons action actions => exact runAll (run ascend action) actions
termination_by structural actions

end

/-- The contexts that well-nested operations lead to. Scopes and checkpoints may still be open. -/
inductive Reachable : Context → Prop where
  /-- No variables at all. -/
  | new : Reachable {}
  /-- The globals, entered one by one. -/
  | globals (entries : List (String × Value)) : Reachable (ofGlobals (sortByKey entries))
  /-- A complete action. -/
  | run {context : Context} (action : Action) : Reachable context → Reachable (action.run context)
  /-- A scope that is not closed yet. -/
  | pushScope {context : Context} : Reachable context → Reachable context.pushScope
  /-- A checkpoint that is not rolled back yet. -/
  | openCheckpoint {context : Context} : Reachable context → Reachable context.openCheckpoint

theorem Reachable.scopesAscend {context : Context} (reachable : Reachable context) :
    context.ScopesAscend := by
  induction reachable with
  | new => simp [ScopesAscend, scopes, Ascending]
  | globals entries => simpa [ScopesAscend, scopes, ofGlobals] using ascending_sortByKey entries
  | run action _ ih => exact ih.run action
  | pushScope _ ih => exact ih.pushScope
  | openCheckpoint _ ih => exact ih.openCheckpoint

/-- Whatever well-nested actions run between a checkpoint and the rollback to it, the context is the one
before the checkpoint: all its scopes, its journal and its open checkpoints. -/
theorem rollback_after_actions {context : Context} (reachable : Reachable context) (actions : List Action) :
    (Action.runAll context.openCheckpoint actions).rollback context.mark = context :=
  rollback_mark (Restorable.runAll context.openCheckpoint actions) reachable.scopesAscend
    (reachable.scopesAscend.openCheckpoint.runAll actions)

/-- Writes and a removal in the shared scope, in a scope of their own and behind checkpoints inside both. -/
def nestedActions : List Action :=
  [.set "x" (.int 1), .set "y" (.int 2), .remove "x",
    .inScope [.set "x" (.int 3), .untilRollback [.remove "x", .read "x"]],
    .untilRollback [.set "y" (.int 4), .inScope [.remove "y"], .set "x" (.int 5)]]

theorem rollback_after_nestedActions :
    Reachable (ofGlobals (sortByKey [("x", .bool true)])).pushScope.openCheckpoint ∧
      (Action.runAll (ofGlobals (sortByKey [("x", .bool true)])).pushScope.openCheckpoint.openCheckpoint
        nestedActions).rollback (ofGlobals (sortByKey [("x", .bool true)])).pushScope.openCheckpoint.mark =
      (ofGlobals (sortByKey [("x", .bool true)])).pushScope.openCheckpoint :=
  have reachable := ((Reachable.globals [("x", .bool true)]).pushScope).openCheckpoint
  ⟨reachable, rollback_after_actions reachable nestedActions⟩

end Context

end Templating
