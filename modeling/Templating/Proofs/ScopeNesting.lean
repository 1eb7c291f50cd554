import Templating.Proofs.CoreProgram
import Templating.Proofs.LoopScope

/-! # How code nests its scopes

A path through code takes one branch of every choice and runs a loop as often as it likes. What the paths through the code
of a program do to the scopes of variables is properly nested: scopes are closed and checkpoints are rolled back in the
reverse order, each checkpoint through the local that holds it.
-/

namespace Templating

namespace Code

/-- What code does to the scopes of variables. -/
inductive ScopeOp where
  | push
  | pop
  | checkpoint (target : Nat)
  | rollback (source : Nat)
deriving Repr, DecidableEq

/-- The local that holds the checkpoint. -/
def ScopeOp.mark? : ScopeOp → Option Nat
  | .checkpoint target => some target
  | .rollback source => some source
  | _ => none

/-- What a statement does to the scopes by itself. -/
def Stmt.scopeOps : Stmt → List ScopeOp
  | .pushScope => [.push]
  | .popScope => [.pop]
  | .checkpoint target => [.checkpoint target]
  | .rollback source => [.rollback source]
  | _ => []

/-- The bodies of a chain of branches, of which one runs. -/
def Chain.bodies : Chain → List (List Stmt)
  | .done => [[]]
  | .otherwise body => [body]
  | .orElse _ body rest => body :: rest.bodies

/-- What may run as part of a statement before what stands behind it. -/
def Stmt.turns : Stmt → List (List Stmt)
  | .branch _ body rest => body :: rest.bodies
  | .whenSet _ body => [body, []]
  | .block body => [body]
  | .labelled _ body => [body]
  | _ => [[]]

/-- The body of a loop. -/
def Stmt.round? : Stmt → Option (List Stmt)
  | .each _ _ _ body => some body
  | .eachNumbered _ _ _ _ body => some body
  | _ => none

/-- What a path through code does to the scopes. -/
inductive Path : List Stmt → List ScopeOp → Prop
  | done : Path [] []
  | turn {statement : Stmt} {inner rest : List Stmt} {first ops : List ScopeOp} :
      inner ∈ statement.turns → Path inner first → Path rest ops → Path (statement :: rest) (statement.scopeOps ++ first ++ ops)
  | again {statement : Stmt} {body rest : List Stmt} {first ops : List ScopeOp} :
      statement.round? = some body → Path body first → Path (statement :: rest) ops → Path (statement :: rest) (first ++ ops)

/-- Every scope is closed once and every checkpoint rolled back once, the latest first. Nothing in between names the local of
the checkpoint. -/
inductive Nested : List ScopeOp → Prop
  | nil : Nested []
  | scope {inside rest : List ScopeOp} : Nested inside → Nested rest → Nested (.push :: inside ++ .pop :: rest)
  | checkpoint {mark : Nat} {inside rest : List ScopeOp} : Nested inside → (∀ op ∈ inside, op.mark? ≠ some mark) →
      Nested rest → Nested (.checkpoint mark :: inside ++ .rollback mark :: rest)

theorem Nested.append {first rest : List ScopeOp} (one : Nested first) (other : Nested rest) : Nested (first ++ rest) := by
  induction one with
  | nil => exact other
  | scope inside _ _ ih => simpa using Nested.scope inside ih
  | checkpoint inside fresh _ _ ih => simpa using Nested.checkpoint inside fresh ih

theorem Path.append {first rest : List Stmt} {before behind : List ScopeOp} (one : Path first before) (other : Path rest behind) :
    Path (first ++ rest) (before ++ behind) := by
  induction one with
  | done => exact other
  | turn among inner _ _ ih => simpa using Path.turn among inner ih
  | again repeats inner _ _ ih => simpa using Path.again repeats inner ih

theorem Path.split {first rest : List Stmt} {ops : List ScopeOp} (path : Path (first ++ rest) ops) :
    ∃ before behind, ops = before ++ behind ∧ Path first before ∧ Path rest behind := by
  generalize whole : first ++ rest = code at path
  induction path generalizing first with
  | done =>
      obtain ⟨rfl, rfl⟩ := List.append_eq_nil_iff.mp whole
      exact ⟨[], [], rfl, .done, .done⟩
  | turn among inner path _ ih =>
      cases first with
      | nil =>
          cases whole
          exact ⟨[], _, rfl, .done, .turn among inner path⟩
      | cons statement first =>
          obtain ⟨rfl, rfl⟩ := List.cons.inj whole
          obtain ⟨before, behind, rfl, one, other⟩ := ih rfl
          exact ⟨_, behind, (List.append_assoc ..).symm, .turn among inner one, other⟩
  | again repeats inner path _ ih =>
      cases first with
      | nil =>
          cases whole
          exact ⟨[], _, rfl, .done, .again repeats inner path⟩
      | cons statement first =>
          obtain ⟨rfl, rfl⟩ := List.cons.inj whole
          obtain ⟨before, behind, rfl, one, other⟩ := @ih (statement :: first) rfl
          exact ⟨_, behind, (List.append_assoc ..).symm, .again repeats inner one, other⟩

/-- How many scopes stand around the innermost one, and how many checkpoints are open. -/
def extent (context : Context) : Nat × Nat :=
  (context.enclosing.length, context.openCheckpoints)

/-- What an operation does to these numbers. -/
def ScopeOp.act (extent : Nat × Nat) : ScopeOp → Nat × Nat
  | .push => (extent.1 + 1, extent.2)
  | .pop => (extent.1 - 1, extent.2)
  | .checkpoint _ => (extent.1, extent.2 + 1)
  | .rollback _ => (extent.1, extent.2 - 1)

/-- The run from one machine to another takes a path through the code. -/
def Takes (code : List Stmt) (m m' : Machine) : Prop :=
  ∃ ops, Path code ops ∧ ops.foldl ScopeOp.act (extent m.context) = extent m'.context

section

variable {env : Environment} {includer : Includer} {m middle m' : Machine} {statement : Stmt} {body rest : List Stmt}

theorem Takes.nil (same : extent m'.context = extent m.context) : Takes [] m m' :=
  ⟨[], .done, same.symm⟩

theorem Takes.turn (quiet : statement.scopeOps = []) (among : body ∈ statement.turns) (inner : Takes body m m') :
    Takes [statement] m m' := by
  obtain ⟨ops, path, same⟩ := inner
  refine ⟨ops, ?_, same⟩
  simpa [quiet] using Path.turn among path .done

theorem Takes.plain (turns : statement.turns = [[]])
    (same : statement.scopeOps.foldl ScopeOp.act (extent m.context) = extent m'.context) : Takes [statement] m m' := by
  refine ⟨statement.scopeOps, ?_, same⟩
  have path : Path [statement] (statement.scopeOps ++ [] ++ []) := .turn (turns ▸ List.mem_singleton_self _) .done .done
  simpa using path

theorem Takes.cons (first : Takes [statement] m middle) (later : Takes rest middle m') : Takes (statement :: rest) m m' := by
  obtain ⟨one, path, same⟩ := first
  obtain ⟨other, onward, sameLater⟩ := later
  exact ⟨one ++ other, path.append onward, by rw [List.foldl_append, same, sameLater]⟩

theorem foldlM_takes {α : Type} {items : List α} {round : Machine → α → Except Failure Machine} (quiet : statement.scopeOps = [])
    (turns : statement.turns = [[]]) (repeats : statement.round? = some body)
    (rounds : ∀ m item m', round m item = .ok m' → Takes body m m') (ran : items.foldlM round m = .ok m') :
    Takes [statement] m m' := by
  induction items generalizing m with
  | nil =>
      cases ran
      exact .plain turns (by rw [quiet]; rfl)
  | cons item items ih =>
      rw [List.foldlM_cons] at ran
      obtain ⟨next, first, later⟩ := bind_eq_ok.mp ran
      obtain ⟨one, path, same⟩ := rounds m item next first
      obtain ⟨other, onward, sameLater⟩ := ih later
      exact ⟨one ++ other, .again repeats path onward, by rw [List.foldl_append, same, sameLater]⟩

/-- An includer that gives back as many scopes and open checkpoints as it found. -/
def Steady (includer : Includer) : Prop :=
  ∀ value context output context' output', includer value context output = .ok (context', output') →
    extent context' = extent context

theorem extent_set (context : Context) (name : String) (value : Value) : extent (context.set name value) = extent context := by
  simp only [extent, Context.set, Context.record]
  split <;> rfl

theorem extent_remove (context : Context) (name : String) : extent (context.remove name) = extent context := by
  rw [Context.remove]
  split
  · rfl
  · simp only [extent, Context.record]
    split <;> rfl

theorem extent_popScope (context : Context) : extent context.popScope = ScopeOp.pop.act (extent context) := by
  rw [Context.popScope]
  split
  · rename_i only
    simp [extent, ScopeOp.act, only]
  · rename_i more
    simp [extent, ScopeOp.act, more]

theorem extent_rollback (context : Context) (checkpoint : Checkpoint) :
    extent (context.rollback checkpoint) = (context.enclosing.length, context.openCheckpoints - 1) := by
  simp only [extent, Context.rollback, Context.modifyScopeAt]
  split
  · rfl
  · split
    · simp
    · rfl

mutual

theorem exec_takes {m m' : Machine} {statement : Stmt} (steady : Steady includer) (ran : exec env includer m statement = .ok m') : Takes [statement] m m' := by
  cases statement with
  | writeText text =>
      cases ran
      exact .plain rfl rfl
  | writeEscaped value | writeValue value | evaluate value | hold target value =>
      rw [exec] at ran
      obtain ⟨v, -, ⟨⟩⟩ := bind_eq_ok.mp ran
      exact .plain rfl rfl
  | «include» source =>
      rw [exec] at ran
      obtain ⟨⟨context, output⟩, included, ⟨⟩⟩ := bind_eq_ok.mp ran
      exact .plain rfl (steady _ _ _ _ _ included).symm
  | holdEntries target value =>
      rw [exec] at ran
      obtain ⟨v, -, ran⟩ := bind_eq_ok.mp ran
      obtain ⟨pairs, -, ⟨⟩⟩ := bind_eq_ok.mp ran
      exact .plain rfl rfl
  | assign name source =>
      cases ran
      exact .plain rfl (extent_set _ _ _).symm
  | assignState | assignRound =>
      cases ran
      exact .plain rfl (extent_set _ _ _).symm
  | unassign name =>
      cases ran
      exact .plain rfl (extent_remove _ _).symm
  | pushScope | checkpoint =>
      cases ran
      exact .plain rfl rfl
  | popScope =>
      cases ran
      exact .plain rfl (extent_popScope _).symm
  | rollback source =>
      cases ran
      exact .plain rfl (extent_rollback _ _).symm
  | holdEmptiness | holdLength | holdState | advance =>
      cases ran
      exact .plain rfl rfl
  | each key value entries body =>
      rw [exec] at ran
      refine foldlM_takes rfl rfl rfl (fun m item m' round => ?_) ran
      exact (execAll_takes steady round :)
  | eachNumbered index key value entries body =>
      rw [exec] at ran
      refine foldlM_takes rfl rfl rfl (fun m item m' round => ?_) ran
      exact (execAll_takes steady round :)
  | branch test body rest =>
      rw [exec] at ran
      obtain ⟨passes, -, ran⟩ := bind_eq_ok.mp ran
      split at ran
      · exact .turn rfl List.mem_cons_self (execAll_takes steady ran)
      · obtain ⟨inner, among, taken⟩ := execChain_takes steady ran
        exact .turn rfl (List.mem_cons_of_mem _ among) taken
  | whenSet flag body =>
      rw [exec] at ran
      split at ran
      · exact .turn rfl List.mem_cons_self (execAll_takes steady ran)
      · cases ran
        exact .turn rfl (List.mem_cons_of_mem _ List.mem_cons_self) (.nil rfl)
  | block body | labelled keyword body =>
      rw [exec] at ran
      exact .turn rfl List.mem_cons_self (execAll_takes steady ran)
termination_by structural statement

theorem execAll_takes {m m' : Machine} {code : List Stmt} (steady : Steady includer) (ran : execAll env includer m code = .ok m') :
    Takes code m m' := by
  cases code with
  | nil =>
      cases ran
      exact .nil rfl
  | cons statement rest =>
      rw [execAll] at ran
      obtain ⟨next, first, later⟩ := bind_eq_ok.mp ran
      exact (exec_takes steady first).cons (execAll_takes steady later)
termination_by structural code

theorem execChain_takes {m m' : Machine} {chain : Chain} (steady : Steady includer) (ran : execChain env includer m chain = .ok m') :
    ∃ inner ∈ chain.bodies, Takes inner m m' := by
  cases chain with
  | done =>
      cases ran
      exact ⟨[], List.mem_cons_self, .nil rfl⟩
  | otherwise body =>
      rw [execChain] at ran
      exact ⟨body, List.mem_cons_self, execAll_takes steady ran⟩
  | orElse test body rest =>
      rw [execChain] at ran
      obtain ⟨passes, -, ran⟩ := bind_eq_ok.mp ran
      split at ran
      · exact ⟨body, List.mem_cons_self, execAll_takes steady ran⟩
      · obtain ⟨inner, among, taken⟩ := execChain_takes steady ran
        exact ⟨inner, List.mem_cons_of_mem _ among, taken⟩
termination_by structural chain

end

end

end Code

namespace Compile

open Code (Path Nested Stmt)

/-- Every path through statements is nested and names locals from `low` on. -/
def KeepsScopes (low : Nat) (code : List Stmt) : Prop :=
  ∀ ops, Path code ops → Nested ops ∧ ∀ op ∈ ops, ∀ mark ∈ op.mark?, low ≤ mark

namespace KeepsScopes

variable {low lower : Nat} {statement : Stmt} {first rest body : List Stmt}

theorem nil : KeepsScopes low [] := by
  rintro ops ⟨⟩
  exact ⟨.nil, nofun⟩

theorem append (one : KeepsScopes low first) (other : KeepsScopes low rest) : KeepsScopes low (first ++ rest) := by
  intro ops path
  obtain ⟨before, behind, rfl, front, back⟩ := path.split
  obtain ⟨nested, named⟩ := one before front
  obtain ⟨nestedRest, namedRest⟩ := other behind back
  exact ⟨nested.append nestedRest, List.forall_mem_append.mpr ⟨named, namedRest⟩⟩

theorem mono (keeps : KeepsScopes low body) (fewer : lower ≤ low) : KeepsScopes lower body := by
  intro ops path
  obtain ⟨nested, named⟩ := keeps ops path
  exact ⟨nested, fun op member mark holds => Nat.le_trans fewer (named op member mark holds)⟩

/-- A statement that does nothing to the scopes by itself does what its parts do. -/
theorem single (quiet : statement.scopeOps = []) (turns : ∀ inner ∈ statement.turns, KeepsScopes low inner)
    (rounds : ∀ inner ∈ statement.round?, KeepsScopes low inner) : KeepsScopes low [statement] := by
  intro ops path
  generalize alone : [statement] = code at path
  induction path with
  | done => cases alone
  | turn among inner rest _ _ =>
      cases alone
      cases rest
      simpa [quiet] using turns _ among _ inner
  | again repeats inner _ _ ih =>
      obtain ⟨nested, named⟩ := ih alone
      cases alone
      obtain ⟨nestedFirst, namedFirst⟩ := rounds _ repeats _ inner
      exact ⟨nestedFirst.append nested, List.forall_mem_append.mpr ⟨namedFirst, named⟩⟩

theorem plain (quiet : statement.scopeOps = []) (turns : statement.turns = [[]]) (rounds : statement.round? = none) :
    KeepsScopes low [statement] := by
  refine single quiet ?_ (by rw [rounds]; exact nofun)
  rw [turns]
  exact List.forall_mem_singleton.mpr nil

theorem loop (quiet : statement.scopeOps = []) (turns : statement.turns = [[]]) (rounds : statement.round? = some body)
    (inside : KeepsScopes low body) : KeepsScopes low [statement] := by
  refine single quiet ?_ ?_
  · rw [turns]
    exact List.forall_mem_singleton.mpr nil
  · rw [rounds]
    rintro inner ⟨⟩
    exact inside

end KeepsScopes

theorem path_single {statement : Stmt} {ops : List Code.ScopeOp} (turns : statement.turns = [[]])
    (rounds : statement.round? = none) (path : Path [statement] ops) : ops = statement.scopeOps := by
  cases path with
  | turn among inner rest =>
      rw [turns] at among
      cases List.mem_singleton.mp among
      cases inner
      cases rest
      simp
  | again repeats =>
      rw [rounds] at repeats
      cases repeats

theorem LoopPlan.keepsScopes_around (plan : LoopPlan) (next : Nat) {inside : List Stmt}
    (keeps : KeepsScopes (plan.locals next).entries inside) :
    KeepsScopes next ([plan.opening (plan.locals next)] ++ inside ++ [plan.closing (plan.locals next)]) := by
  have order := plan.locals_ordered next
  intro ops path
  obtain ⟨before, last, rfl, front, back⟩ := path.split
  obtain ⟨first, middle, rfl, opened, between⟩ := front.split
  obtain ⟨nested, named⟩ := keeps middle between
  have lower : ∀ op ∈ middle, ∀ mark ∈ op.mark?, next ≤ mark := fun op member mark holds =>
    Nat.le_trans order.entries (named op member mark holds)
  cases shares : plan.sharesScope with
  | false =>
      simp only [opening, closing, shares, Bool.false_eq_true, if_false] at opened back
      obtain rfl := path_single rfl rfl opened
      obtain rfl := path_single rfl rfl back
      refine ⟨by simpa [Stmt.scopeOps] using Nested.scope nested .nil, ?_⟩
      simpa [Stmt.scopeOps, Code.ScopeOp.mark?, or_imp, forall_and] using lower
  | true =>
      simp only [opening, closing, shares, if_true, order.mark] at opened back
      obtain rfl := path_single rfl rfl opened
      obtain rfl := path_single rfl rfl back
      have fresh : ∀ op ∈ middle, op.mark? ≠ some next := by
        intro op member same
        have := named op member next same
        have := order.shared shares
        omega
      refine ⟨by simpa [Stmt.scopeOps] using Nested.checkpoint nested fresh .nil, ?_⟩
      simpa [Stmt.scopeOps, Code.ScopeOp.mark?, or_imp, forall_and] using lower

theorem LoopPlan.bindings_keepScopes (plan : LoopPlan) (l : LoopLocals) (low : Nat) : KeepsScopes low (plan.bindings l) := by
  rw [bindings]
  refine .append ?_ (.plain rfl rfl rfl)
  cases plan.keyVariable with
  | none => exact .nil
  | some key => exact .plain rfl rfl rfl

theorem LoopPlan.repetition_keepsScopes (plan : LoopPlan) (l : LoopLocals) {low : Nat} {body : List Stmt}
    (inside : KeepsScopes low body) : KeepsScopes low (plan.repetition l body) := by
  have bound := plan.bindings_keepScopes l low
  rw [repetition]
  split
  · refine .append (.plain rfl rfl rfl : KeepsScopes low [.holdState l.state l.entries]) (.loop rfl rfl rfl ?_)
    refine (bound.append (.append (.plain rfl rfl rfl : KeepsScopes low [.assignState l.state]) inside)).append ?_
    exact .plain rfl rfl rfl
  · refine .append (.plain rfl rfl rfl : KeepsScopes low [.holdLength l.state l.entries]) (.loop rfl rfl rfl ?_)
    exact bound.append (.append (.plain rfl rfl rfl : KeepsScopes low [.assignRound l.index l.state]) inside)

theorem LoopPlan.statements_keepsScopes (plan : LoopPlan) (next : Nat) (iterable : Code.Expr) {body otherwise : List Stmt}
    (inside : KeepsScopes (plan.locals next).behind body) (other : KeepsScopes next otherwise) :
    KeepsScopes next (plan.statements (plan.locals next) iterable body otherwise) := by
  have order := plan.locals_ordered next
  have behind : (plan.locals next).entries ≤ (plan.locals next).behind := by
    rw [order.behind]
    exact Nat.le_trans (Nat.le_of_lt order.key) (Nat.le_add_right _ _)
  have rounds := plan.repetition_keepsScopes (plan.locals next) (inside.mono behind)
  generalize locals : plan.locals next = l at rounds
  have emptiness : KeepsScopes l.entries (if plan.hasElse then [.holdEmptiness l.empty l.entries] else []) := by
    split
    · exact .plain rfl rfl rfl
    · exact .nil
  have last : KeepsScopes next (if plan.hasElse then [.whenSet l.empty otherwise] else []) := by
    split
    · exact .single rfl (List.forall_mem_cons.mpr ⟨other, List.forall_mem_singleton.mpr .nil⟩) nofun
    · exact .nil
  have held : KeepsScopes l.entries [.holdEntries l.entries iterable] := .plain rfl rfl rfl
  have around := plan.keepsScopes_around next (locals ▸ (held.append emptiness).append rounds)
  rw [locals] at around
  simpa [LoopPlan.statements] using around.append last

mutual

theorem Step.code_keepsScopes (step : Step) (next : Nat) : KeepsScopes next (step.code next).1 := by
  cases step with
  | text text => exact .plain rfl rfl rfl
  | output safe value => cases safe <;> exact .plain rfl rfl rfl
  | assign name value => exact .append (.plain rfl rfl rfl : KeepsScopes next [.hold next value]) (.plain rfl rfl rfl)
  | inclusion value => exact .append (.plain rfl rfl rfl : KeepsScopes next [.hold next value]) (.plain rfl rfl rfl)
  | choose branches => exact branches.chain_keepsScopes .holds next
  | switch subject branches =>
      refine .append (.plain rfl rfl rfl : KeepsScopes next [.hold next subject]) ?_
      exact (branches.chain_keepsScopes (.equals next) (next + 1)).mono (Nat.le_succ _)
  | loop plan iterable body otherwise =>
      refine plan.statements_keepsScopes next iterable (Step.codeAll_keepsScopes body _) ?_
      split
      · refine (Step.codeAll_keepsScopes otherwise _).mono ?_
        exact Nat.le_trans (plan.le_behind next) (Step.le_codeAll _ body)
      · exact .nil
  | nested body => exact .nil

theorem Step.codeAll_keepsScopes (steps : List Step) (next : Nat) : KeepsScopes next (Step.codeAll next steps).1 := by
  cases steps with
  | nil => exact .nil
  | cons step steps =>
      exact (step.code_keepsScopes next).append ((Step.codeAll_keepsScopes steps _).mono (step.le_code next))

theorem Branches.bodies_keepScopes (branches : Branches) (test : Code.Expr → Code.Test) (next : Nat) :
    ∀ inner ∈ (branches.code test next).1.bodies, KeepsScopes next inner := by
  cases branches with
  | done => exact List.forall_mem_singleton.mpr .nil
  | otherwise body => exact List.forall_mem_singleton.mpr (Step.codeAll_keepsScopes body next)
  | orElse value body rest =>
      refine List.forall_mem_cons.mpr ⟨Step.codeAll_keepsScopes body next, fun inner member => ?_⟩
      exact (rest.bodies_keepScopes test _ inner member).mono (Step.le_codeAll next body)

theorem Branches.chain_keepsScopes (branches : Branches) (test : Code.Expr → Code.Test) (next : Nat) :
    KeepsScopes next (chainStatements (branches.code test next).1) := by
  cases branches with
  | done => exact .nil
  | otherwise body => exact .single rfl (List.forall_mem_singleton.mpr (Step.codeAll_keepsScopes body next)) nofun
  | orElse value body rest =>
      refine .single rfl (List.forall_mem_cons.mpr ⟨Step.codeAll_keepsScopes body next, fun inner member => ?_⟩) nofun
      exact (rest.bodies_keepScopes test _ inner member).mono (Step.le_codeAll next body)

end

end Compile

end Templating
