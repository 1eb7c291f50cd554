import Mathlib.Data.List.Nodup
import Templating.Proofs.CodeLayout
import Templating.Proofs.LocalDeclarations
import Templating.Proofs.LoopScope

/-! # The numbers of locals

Which locals the statements of a program declare, and that they use no others. Locals are numbered through a whole module:
the statements of a step and those of the templates nested in it declare each number that the step takes once.
-/

namespace Templating

namespace Compile

open Code (Scopes Passes Sees Reads Quiet Sealed localName localWord)

/-- The locals may be used. -/
def Visible (numbers : List Nat) (s : Scopes) : Prop :=
  ∀ n ∈ numbers, s.sees (localWord n) = true

/-- Where the locals `needs` may be used, the statements declare `numbers`; behind them `gives` may be used, too. -/
def Binds (needs : List Nat) (code : List Code.Stmt) (numbers gives : List Nat) : Prop :=
  ∀ ⦃s : Scopes⦄, s.Ready → Visible needs s →
    Passes (Code.Stmt.allEdits code) s (s.grow numbers (gives.map localWord))

theorem Visible.keep {needs : List Nat} {s : Scopes} (visible : Visible needs s) (numbers : List Nat)
    (more : List (List Char)) : Visible needs (s.grow numbers more) :=
  fun n member => Scopes.sees_grow (visible n member) _ _

theorem Visible.grow {needs : List Nat} {s : Scopes} (visible : Visible needs s) (numbers gives : List Nat) :
    Visible (needs ++ gives) (s.grow numbers (gives.map localWord)) :=
  List.forall_mem_append.mpr ⟨visible.keep _ _, fun _ member => Scopes.sees_grow_new (List.mem_map_of_mem member) s _⟩

theorem Visible.enter {needs : List Nat} {s : Scopes} (visible : Visible needs s) (numbers : List Nat) :
    Visible (needs ++ numbers) (s.enter numbers) :=
  List.forall_mem_append.mpr ⟨fun n member => Scopes.sees_enter (visible n member) _,
    fun _ member => Scopes.sees_enter_new member s⟩

namespace Binds

variable {needs numbers others gives further : List Nat} {first rest body : List Code.Stmt} {statement : Code.Stmt}

theorem nil (needs : List Nat) : Binds needs [] [] [] := by
  intro s _ _
  rw [List.map_nil, Scopes.grow_nil]
  exact .nil s

theorem append (one : Binds needs first numbers gives) (other : Binds (needs ++ gives) rest others further) :
    Binds needs (first ++ rest) (numbers ++ others) (gives ++ further) := by
  intro s ready visible
  rw [allEdits_append, List.map_append, ← Scopes.grow_grow]
  exact (one ready visible).append (other (ready.grow _ _) (visible.grow _ _))

theorem mono (binds : Binds needs body numbers gives) {more : List Nat} (within : needs ⊆ more) : Binds more body numbers gives :=
  fun _ ready visible => binds ready fun n member => visible n (within member)

theorem before (one : Binds needs first [] []) (other : Binds needs rest numbers gives) :
    Binds needs (first ++ rest) numbers gives :=
  one.append (other.mono (List.subset_append_left _ _))

theorem after (one : Binds needs first numbers gives) (other : Binds (needs ++ gives) rest [] []) :
    Binds needs (first ++ rest) numbers gives := by
  have both := one.append other
  rwa [List.append_nil, List.append_nil] at both

theorem single (passes : ∀ ⦃s : Scopes⦄, s.Ready → Visible needs s →
    Passes statement.edits s (s.grow numbers (gives.map localWord))) : Binds needs [statement] numbers gives := by
  intro s ready visible
  rw [edits_single]
  exact passes ready visible

theorem line {content text : String} (written : statement.edits = [.line (content ++ text)])
    (inside : ∀ ⦃s : Scopes⦄, s.Ready → Visible needs s → Sees content s s) (ends : Code.isEnding text = true) :
    Binds needs [statement] [] [] := by
  refine single fun s ready visible => ?_
  rw [written, List.map_nil, Scopes.grow_nil]
  exact ready.line (inside ready visible) ends

theorem declaring {n : Nat} {content : String} (written : statement.edits = [Code.binding n content])
    (inside : ∀ ⦃s : Scopes⦄, s.Still → Visible needs s → Sees content s s) : Binds needs [statement] [n] [n] := by
  refine single fun s ready visible => ?_
  rw [written]
  exact ready.binds (inside (ready.still_binding n) visible)

theorem braced {head : String} (written : statement.edits = Code.braced head (Code.Stmt.allEdits body)) {pattern : List Nat}
    (enters : ∀ ⦃s : Scopes⦄, s.Ready → Visible needs s → Sees (head ++ "\x7b") s (s.enter pattern))
    (inside : Binds (needs ++ pattern) body numbers gives) : Binds needs [statement] (pattern ++ numbers) [] := by
  refine single fun s ready visible => ?_
  rw [written]
  exact Code.passes_braced ready (enters ready visible) (inside (s.ready_enter pattern) (visible.enter pattern))

end Binds

section

variable {needs : List Nat} {target source index length entries : Nat} {value : Code.Expr}

theorem sees_use {s : Scopes} (still : s.Still) (visible : Visible needs s) (known : source ∈ needs) :
    Sees (localName source) s s :=
  Code.sees_localName still.role (visible source known)

theorem writeText_binds (text : String) : Binds needs [.writeText text] [] [] := by
  have opened : Sealed "__out.write_str(" := Code.sealed_of_isSealed (by decide)
  exact .line rfl (fun s ready _ => (opened.append (Code.sealed_quote text)).quiet ready.still) (by decide)

theorem output_binds (quiet : Quiet value.text) (safe : Bool) :
    Binds needs [if safe then .writeValue value else .writeEscaped value] [] [] := by
  have escaped : Sealed "__out.write_escaped(&" := Code.sealed_of_isSealed (by decide)
  have whole : Sealed "__out.write_value(&" := Code.sealed_of_isSealed (by decide)
  cases safe
  · exact .line rfl (fun s ready _ => escaped.append_quiet quiet ready.still) (by decide)
  · exact .line rfl (fun s ready _ => whole.append_quiet quiet ready.still) (by decide)

theorem hold_binds (quiet : Quiet value.text) (target : Nat) : Binds needs [.hold target value] [target] [target] :=
  .declaring rfl fun _ still _ => quiet still

theorem assignment_binds {statement : Code.Stmt} {name content : String}
    (written : statement.edits = [Code.assignment name content])
    (inside : ∀ ⦃s : Scopes⦄, s.Still → Visible needs s → Sees content s s) : Binds needs [statement] [] [] := by
  have opened : Sealed "__ctx.set(" := Code.sealed_of_isSealed (by decide)
  have named : Sealed ("__ctx.set(" ++ Text.quote name ++ ", ") := (opened.append (Code.sealed_quote name)).quiet.then (by decide)
  exact .line written (fun s ready visible => (named ready.still).append_sees (inside ready.still visible)) (by decide)

theorem assign_binds (known : source ∈ needs) (name : String) : Binds needs [.assign name source] [] [] :=
  assignment_binds rfl fun _ still visible => sees_use still visible known

theorem inclusion_binds (known : source ∈ needs) : Binds needs [.include source] [] [] := by
  have opened : Sealed "__env.include(&" := Code.sealed_of_isSealed (by decide)
  exact .line rfl (fun s ready visible => (opened ready.still).append_sees (sees_use ready.still visible known)) (by decide)

theorem advance_binds (known : source ∈ needs) : Binds needs [.advance source] [] [] :=
  .line rfl (fun _ ready visible => sees_use ready.still visible known) (by decide)

theorem assignState_binds (known : source ∈ needs) : Binds needs [.assignState source] [] [] := by
  have called : Code.isApart ".to_value()" = true := by decide
  exact assignment_binds rfl fun s still visible => ((sees_use still visible known).then still called).sees

theorem assignRound_binds (numbered : index ∈ needs) (counted : length ∈ needs) :
    Binds needs [.assignRound index length] [] [] := by
  have opened : Sealed "LoopState::at(" := Code.sealed_of_isSealed (by decide)
  have comma : Code.isApart ", " = true := by decide
  have called : Code.isApart ").to_value()" = true := by decide
  refine assignment_binds rfl fun s still visible => ?_
  have first := ((opened still).append_sees (sees_use still visible numbered)).then still comma
  exact ((first.append_sees (sees_use still visible counted)).then still called).sees

theorem ofEntries_binds {statement : Code.Stmt} {call : String} (known : entries ∈ needs) (apart : Code.isApart call = true)
    (written : statement.edits = [Code.binding target (localName entries ++ call)]) : Binds needs [statement] [target] [target] :=
  .declaring written fun _ still visible => ((sees_use still visible known).then still apart).sees

theorem holdEntries_binds (quiet : Quiet value.text) (target : Nat) :
    Binds needs [.holdEntries target value] [target] [target] := by
  have opened : Sealed "(" := Code.sealed_of_isSealed (by decide)
  have called : Quiet ("(" ++ value.text ++ ").iter_entries()?") := ((opened.append_quiet quiet).then (by decide)).quiet
  exact .declaring rfl fun _ still _ => called still

theorem holdState_binds (known : entries ∈ needs) : Binds needs [.holdState target entries] [target] [target] := by
  have made : Sealed "LoopState::new(" := Code.sealed_of_isSealed (by decide)
  have counted : Code.isApart ".len())" = true := by decide
  have opens : Code.Closed "let mut " [.word "let".toList, .word "mut".toList] := rfl
  have written : Code.Stmt.edits (.holdState target entries) =
      [.line ("let mut " ++ localName target ++ " = " ++ ("LoopState::new(" ++ localName entries ++ ".len())") ++ ";")] := by
    have gives : " = LoopState::new(" = " = " ++ "LoopState::new(" := rfl
    have ends : ".len());" = ".len())" ++ ";" := rfl
    rw [Code.Stmt.edits, gives, ends]
    simp only [String.append_assoc]
  refine .single fun s ready visible => ?_
  rw [written]
  have still := ready.still_binding target
  exact ready.declares (.inr opens) (((made still).append_sees (sees_use still visible known)).then still counted).sees

end

/-- The locals that a loop declares itself, in this order. -/
def LoopPlan.declared (plan : LoopPlan) (l : LoopLocals) : List Nat :=
  (if plan.sharesScope then [l.mark] else []) ++ [l.entries] ++ (if plan.hasElse then [l.empty] else [])
    ++ l.state :: (if plan.keepsState then [l.key, l.value] else [l.index, l.key, l.value])

section

variable {plan : LoopPlan} {l : LoopLocals} {needs numbers gives : List Nat} {body : List Code.Stmt}

theorem opening_binds (plan : LoopPlan) (l : LoopLocals) (needs : List Nat) :
    Binds needs [plan.opening l] (if plan.sharesScope then [l.mark] else []) (if plan.sharesScope then [l.mark] else []) := by
  unfold LoopPlan.opening
  split
  · have quiet : Quiet "__ctx.checkpoint()" := Code.quiet_of_isQuiet (by decide)
    exact .declaring rfl fun _ still _ => quiet still
  · have written : Code.Stmt.edits .pushScope = [.line ("__ctx.push_scope" ++ "();")] := rfl
    have quiet : Quiet "__ctx.push_scope" := Code.quiet_of_isQuiet (by decide)
    exact .line written (fun _ ready _ => quiet ready.still) (by decide)

theorem closing_binds (plan : LoopPlan) (l : LoopLocals) (known : plan.sharesScope = true → l.mark ∈ needs) : Binds needs [plan.closing l] [] [] := by
  unfold LoopPlan.closing
  split
  · rename_i shares
    have opened : Sealed "__ctx.rollback(" := Code.sealed_of_isSealed (by decide)
    exact .line rfl (fun _ ready visible => (opened ready.still).append_sees (sees_use ready.still visible (known shares)))
      (by decide)
  · have written : Code.Stmt.edits .popScope = [.line ("__ctx.pop_scope" ++ "();")] := rfl
    have quiet : Quiet "__ctx.pop_scope" := Code.quiet_of_isQuiet (by decide)
    exact .line written (fun _ ready _ => quiet ready.still) (by decide)

theorem noting_binds (plan : LoopPlan) (l : LoopLocals) (known : l.entries ∈ needs) :
    Binds needs (if plan.hasElse then [.holdEmptiness l.empty l.entries] else [])
      (if plan.hasElse then [l.empty] else []) (if plan.hasElse then [l.empty] else []) := by
  split
  · exact ofEntries_binds known (by decide) rfl
  · exact .nil needs

theorem bindings_bind (key : l.key ∈ needs) (value : l.value ∈ needs) : Binds needs (plan.bindings l) [] [] := by
  have assigned : Binds needs [.assign plan.valueVariable l.value] [] [] := assign_binds value _
  unfold LoopPlan.bindings
  cases plan.keyVariable with
  | none => exact assigned
  | some name => exact (assign_binds key name).before assigned

theorem repetition_binds (plan : LoopPlan) (l : LoopLocals) (known : l.entries ∈ needs) (inside : Binds [] body numbers gives) :
    Binds needs (plan.repetition l body)
      (l.state :: (if plan.keepsState then [l.key, l.value] else [l.index, l.key, l.value]) ++ numbers) [l.state] := by
  have visible : l.entries ∈ needs ++ [l.state] := List.mem_append_left _ known
  unfold LoopPlan.repetition
  split
  · have round : Binds (needs ++ [l.state] ++ [l.key, l.value])
        (plan.bindings l ++ .assignState l.state :: body ++ [.advance l.state]) numbers gives := by
      have assigned : Binds (needs ++ [l.state] ++ [l.key, l.value]) [.assignState l.state] [] [] := assignState_binds (by simp)
      exact ((bindings_bind (by simp) (by simp)).before (assigned.before (inside.mono nofun))).after (advance_binds (by simp))
    have looped : Binds (needs ++ [l.state]) [.each l.key l.value l.entries
        (plan.bindings l ++ .assignState l.state :: body ++ [.advance l.state])] ([l.key, l.value] ++ numbers) [] :=
      .braced rfl (fun s ready seen => ready.each_head (seen l.entries visible)) round
    exact (holdState_binds known).append looped
  · have round : Binds (needs ++ [l.state] ++ [l.index, l.key, l.value])
        (plan.bindings l ++ .assignRound l.index l.state :: body) numbers gives := by
      have assigned : Binds (needs ++ [l.state] ++ [l.index, l.key, l.value]) [.assignRound l.index l.state] [] [] :=
        assignRound_binds (by simp) (by simp)
      exact (bindings_bind (by simp) (by simp)).before (assigned.before (inside.mono nofun))
    have looped : Binds (needs ++ [l.state]) [.eachNumbered l.index l.key l.value l.entries
        (plan.bindings l ++ .assignRound l.index l.state :: body)] ([l.index, l.key, l.value] ++ numbers) [] :=
      .braced rfl (fun s ready seen => ready.eachNumbered_head (seen l.entries visible)) round
    exact (ofEntries_binds known (by decide) rfl).append looped

theorem whenSet_binds {flag : Nat} (known : flag ∈ needs) (inside : Binds [] body numbers gives) :
    Binds needs [.whenSet flag body] numbers [] := by
  have opened : Sealed "if " := Code.sealed_of_isSealed (by decide)
  have blank : Code.isApart " " = true := by decide
  have whole : Binds needs [.whenSet flag body] ([] ++ numbers) [] := by
    refine .braced rfl (fun s ready visible => ?_) (inside.mono nofun)
    have head := ((opened ready.still).append_sees (sees_use ready.still visible known)).then ready.still blank
    exact ready.opens head
  exact whole

theorem otherwise_binds (plan : LoopPlan) (l : LoopLocals) (known : plan.hasElse = true → l.empty ∈ needs)
    (inside : plan.hasElse = true → ∃ gives, Binds [] body numbers gives) :
    Binds needs (if plan.hasElse then [.whenSet l.empty body] else []) (if plan.hasElse then numbers else []) [] := by
  split
  · rename_i hasElse
    obtain ⟨gives, binds⟩ := inside hasElse
    exact whenSet_binds (known hasElse) binds
  · exact .nil needs

/-- A loop declares its own locals, those of its body, and those of its branch for no entries. -/
theorem LoopPlan.statements_bind (plan : LoopPlan) (l : LoopLocals) {iterable : Code.Expr} (quiet : Quiet iterable.text)
    {otherwise : List Code.Stmt} {others : List Nat} (inside : Binds [] body numbers gives)
    (last : plan.hasElse = true → ∃ gives, Binds [] otherwise others gives) :
    ∃ given, Binds needs (plan.statements l iterable body otherwise)
      (plan.declared l ++ numbers ++ if plan.hasElse then others else []) given := by
  have opened := (opening_binds plan l needs).append (holdEntries_binds quiet l.entries)
  have noted := opened.append (noting_binds plan l (by simp))
  have looped := noted.append (repetition_binds plan l (by simp) inside)
  have closed := looped.after (closing_binds plan l fun shares => by simp [shares])
  have whole := closed.append (otherwise_binds plan l (fun hasElse => by simp [hasElse]) last)
  rw [LoopPlan.statements, LoopPlan.declared, List.append_assoc _ (l.state :: _) numbers]
  exact ⟨_, whole⟩

end

/-- The rest of a chain ends the block of the branch before it and declares these locals. -/
def ChainBinds (needs : List Nat) (chain : Code.Chain) (numbers : List Nat) : Prop :=
  ∀ ⦃s : Scopes⦄, s.Ready → Visible needs s → ∀ (others : List Nat) (more : List (List Char)),
    Passes chain.edits ((s.enter []).grow others more) (s.grow (others ++ numbers) [])

/-- The text of a test uses no local but these. -/
def Tests (needs : List Nat) (test : Code.Expr → Code.Test) : Prop :=
  ∀ ⦃value : Code.Expr⦄, Quiet value.text → ∀ ⦃s : Scopes⦄, s.Still → Visible needs s → Sees (test value).text s s

theorem tests_holds (needs : List Nat) : Tests needs .holds :=
  fun _ quiet _ still _ => Code.quiet_truthText quiet still

theorem tests_equals (subject : Nat) : Tests [subject] (.equals subject) := by
  intro value quiet s still visible
  have opened : Sealed "ops::matches_case(&" := Code.sealed_of_isSealed (by decide)
  have comma : Code.isApart ", &" = true := by decide
  have closed : Code.isApart ")" = true := by decide
  have first := ((opened still).append_sees (sees_use still visible List.mem_cons_self)).then still comma
  exact ((first.append_sees (quiet still)).then still closed).sees

section

variable {needs numbers others gives : List Nat} {test : Code.Expr → Code.Test} {value : Code.Expr} {body : List Code.Stmt}
  {rest : Code.Chain}

theorem done_binds (needs : List Nat) : ChainBinds needs .done [] := by
  intro s ready _ others more
  rw [List.append_nil]
  exact Code.passes_leave ready [] others more

theorem passes_next {s : Scopes} {text : String} {edits : List Code.Edit} {others : List Nat} {more : List (List Char)}
    {s' : Scopes} (enters : Sees text ((s.enter []).grow others more) ((s.grow others []).enter []))
    (inside : Binds [] body numbers gives)
    (onward : Passes edits (((s.grow others []).enter []).grow numbers (gives.map localWord)) s') :
    Passes (.outdent :: .line text :: .indent :: Code.Stmt.allEdits body ++ edits) ((s.enter []).grow others more) s' := by
  have entered : Passes [.outdent, .line text, .indent] ((s.enter []).grow others more) ((s.grow others []).enter []) :=
    ((Passes.outdent _).append (.line enters)).append (.indent _)
  exact (entered.append (inside (Scopes.ready_enter _ _) nofun)).append onward

theorem chainOtherwise_binds (needs : List Nat) (inside : Binds [] body numbers gives) :
    ChainBinds needs (.otherwise body) numbers := by
  intro s ready _ others more
  have middle := ready.grow others []
  have closed : Code.Closed "\x7d else " [.mark '\x7d', .word "else".toList] := rfl
  have left := ready.leaves [] others more closed (by decide)
  have brace : Code.Closed "\x7b" [.mark '\x7b'] := rfl
  have enters : Sees "\x7d else \x7b" ((s.enter []).grow others more) ((s.grow others []).enter []) :=
    (left.append (middle.enters brace)).sees
  have ended := Code.passes_leave middle [] numbers (gives.map localWord)
  rw [Scopes.grow_grow] at ended
  exact passes_next enters inside ended

theorem orElse_binds (tests : Tests needs test) (quiet : Quiet value.text) (inside : Binds [] body numbers gives)
    (later : ChainBinds needs rest others) : ChainBinds needs (.orElse (test value) body rest) (numbers ++ others) := by
  intro s ready visible before more
  have middle := ready.grow before []
  have closed : Code.Closed "\x7d else if " [.mark '\x7d', .word "else".toList, .word "if".toList] := rfl
  have left := ready.leaves [] before more closed (by decide)
  have brace : Code.Closed " \x7b" [.mark '\x7b'] := rfl
  have tested := tests quiet middle.still (visible.keep before [])
  have enters := ((left.append_sees tested).append (middle.enters brace) (by decide) (by decide)).sees
  have onward := later middle (visible.keep before []) numbers (gives.map localWord)
  rw [Scopes.grow_grow] at onward
  exact passes_next enters inside onward

theorem branch_binds (tests : Tests needs test) (quiet : Quiet value.text) (inside : Binds [] body numbers gives)
    (later : ChainBinds needs rest others) : Binds needs [.branch (test value) body rest] (numbers ++ others) [] := by
  refine .single fun s ready visible => ?_
  have opened : Sealed "if " := Code.sealed_of_isSealed (by decide)
  have brace : Code.Closed " \x7b" [.mark '\x7b'] := rfl
  have tested := (opened ready.still).append_sees (tests quiet ready.still visible)
  have enters := (tested.append (ready.enters brace) (by decide) (by decide)).sees
  have entered : Passes [.line ("if " ++ (test value).text ++ " \x7b"), .indent] s (s.enter []) :=
    (Passes.line enters).append (.indent _)
  exact (entered.append (inside (Scopes.ready_enter _ _) nofun)).append (later ready visible numbers _)

theorem block_binds (inside : Binds [] body numbers gives) : Binds needs [.block body] numbers [] := by
  have whole : Binds needs [.block body] ([] ++ numbers) [] := by
    refine .braced rfl (fun s ready _ => ready.opens ?_) (inside.mono nofun)
    exact ⟨[], rfl, rfl⟩
  exact whole

end

mutual

/-- The locals that the statements of a step declare, those of nested templates apart. -/
def Step.owned (next : Nat) : Step → List Nat
  | .text _ => []
  | .output _ _ => []
  | .assign _ _ => [next]
  | .inclusion _ => [next]
  | .choose branches => branches.owned next
  | .switch _ branches => next :: branches.owned (next + 1)
  | .loop plan _ body otherwise =>
    let l := plan.locals next
    plan.declared l ++ Step.ownedAll l.behind body
      ++ if plan.hasElse then Step.ownedAll (Step.codeAll l.behind body).2 otherwise else []
  | .nested _ => []

/-- The locals that the statements of steps declare. -/
def Step.ownedAll (next : Nat) : List Step → List Nat
  | [] => []
  | step :: steps => step.owned next ++ Step.ownedAll (step.code next).2 steps

/-- The locals that the statements in branches declare. -/
def Branches.owned (next : Nat) : Branches → List Nat
  | .done => []
  | .otherwise body => Step.ownedAll next body
  | .orElse _ body rest => Step.ownedAll next body ++ rest.owned (Step.codeAll next body).2

end

mutual

theorem Step.code_binds (step : Step) (next : Nat) (quiet : QuietAll step.values) :
    ∃ gives, Binds [] (step.code next).1 (step.owned next) gives := by
  cases step with
  | text text => exact ⟨[], writeText_binds text⟩
  | output safe value => exact ⟨[], output_binds (quiet value List.mem_cons_self) safe⟩
  | assign name value =>
      have held : Binds [] [.hold next value] [next] [next] := hold_binds (quiet value List.mem_cons_self) next
      exact ⟨_, held.after (assign_binds List.mem_cons_self name)⟩
  | inclusion value =>
      have held : Binds [] [.hold next value] [next] [next] := hold_binds (quiet value List.mem_cons_self) next
      exact ⟨_, held.after (inclusion_binds List.mem_cons_self)⟩
  | choose branches => exact ⟨[], branches.chain_binds (tests_holds []) next quiet⟩
  | switch subject branches =>
      obtain ⟨own, inner⟩ := List.forall_mem_cons.mp quiet
      have held : Binds [] [.hold next subject] [next] [next] := hold_binds own next
      exact ⟨_, held.append (branches.chain_binds (tests_equals next) (next + 1) inner)⟩
  | loop plan iterable body otherwise =>
      obtain ⟨own, inner⟩ := List.forall_mem_cons.mp quiet
      obtain ⟨inBody, inOther⟩ := List.forall_mem_append.mp inner
      obtain ⟨gives, inside⟩ := Step.codeAll_binds body (plan.locals next).behind inBody
      refine plan.statements_bind (plan.locals next) own inside fun hasElse => ?_
      rw [if_pos hasElse]
      exact Step.codeAll_binds otherwise _ inOther
  | nested body => exact ⟨[], .nil []⟩

theorem Step.codeAll_binds (steps : List Step) (next : Nat) (quiet : QuietAll (Step.valuesAll steps)) :
    ∃ gives, Binds [] (Step.codeAll next steps).1 (Step.ownedAll next steps) gives := by
  cases steps with
  | nil => exact ⟨[], .nil []⟩
  | cons step steps =>
      obtain ⟨own, later⟩ := List.forall_mem_append.mp quiet
      obtain ⟨gives, first⟩ := step.code_binds next own
      obtain ⟨further, rest⟩ := Step.codeAll_binds steps (step.code next).2 later
      exact ⟨gives ++ further, first.append (rest.mono nofun)⟩

theorem Branches.code_binds (branches : Branches) {needs : List Nat} {test : Code.Expr → Code.Test} (tests : Tests needs test)
    (next : Nat) (quiet : QuietAll branches.values) : ChainBinds needs (branches.code test next).1 (branches.owned next) := by
  cases branches with
  | done => exact done_binds needs
  | otherwise body =>
      obtain ⟨gives, inside⟩ := Step.codeAll_binds body next quiet
      exact chainOtherwise_binds needs inside
  | orElse value body rest =>
      obtain ⟨own, inner⟩ := List.forall_mem_cons.mp quiet
      obtain ⟨inBody, inRest⟩ := List.forall_mem_append.mp inner
      obtain ⟨gives, inside⟩ := Step.codeAll_binds body next inBody
      exact orElse_binds tests own inside (rest.code_binds tests _ inRest)

theorem Branches.chain_binds (branches : Branches) {needs : List Nat} {test : Code.Expr → Code.Test} (tests : Tests needs test)
    (next : Nat) (quiet : QuietAll branches.values) :
    Binds needs (chainStatements (branches.code test next).1) (branches.owned next) [] := by
  cases branches with
  | done => exact .nil needs
  | otherwise body =>
      obtain ⟨gives, inside⟩ := Step.codeAll_binds body next quiet
      exact block_binds inside
  | orElse value body rest =>
      obtain ⟨own, inner⟩ := List.forall_mem_cons.mp quiet
      obtain ⟨inBody, inRest⟩ := List.forall_mem_append.mp inner
      obtain ⟨gives, inside⟩ := Step.codeAll_binds body next inBody
      exact branch_binds tests own inside (rest.code_binds tests _ inRest)

end

/-- Each number from `first` on, up to `last`, stands in the list once, and no other does. -/
structure Covers (numbers : List Nat) (first last : Nat) : Prop where
  le : first ≤ last
  count : ∀ n, numbers.count n = if first ≤ n ∧ n < last then 1 else 0

/-- The locals that the statements of a nested template declare. -/
def Step.unitOwned (unit : Nat × List Step) : List Nat :=
  Step.ownedAll unit.1 unit.2

namespace Covers

variable {numbers others nested further : List Nat} {first middle last : Nat}

theorem nodup (covers : Covers numbers first last) : numbers.Nodup := by
  rw [List.nodup_iff_count_le_one]
  intro n
  rw [covers.count]
  split <;> decide

theorem nil (n : Nat) : Covers [] n n :=
  ⟨Nat.le_refl n, fun k => by simp⟩

theorem single (n : Nat) : Covers [n] n (n + 1) :=
  ⟨Nat.le_succ n, fun k => by rw [List.count_singleton]; grind⟩

theorem append (one : Covers (numbers ++ nested) first middle) (other : Covers (others ++ further) middle last) :
    Covers (numbers ++ others ++ (nested ++ further)) first last := by
  obtain ⟨low, counts⟩ := one
  obtain ⟨high, countsRest⟩ := other
  refine ⟨Nat.le_trans low high, fun n => ?_⟩
  have here := counts n
  have there := countsRest n
  rw [List.count_append] at here there
  rw [List.count_append, List.count_append, List.count_append]
  split at here <;> split at there <;> split <;> omega

end Covers

theorem LoopPlan.declared_covers (plan : LoopPlan) (next : Nat) :
    Covers (plan.declared (plan.locals next)) next (plan.locals next).behind := by
  refine ⟨plan.le_behind next, fun n => ?_⟩
  unfold LoopPlan.declared LoopPlan.locals
  cases plan.sharesScope <;> cases plan.hasElse <;> cases plan.keepsState <;> simp [List.count_cons] <;> grind

mutual

/-- A step and the templates nested in it declare each number that the step takes once. -/
theorem Step.owned_covers (step : Step) (next : Nat) :
    Covers (step.owned next ++ (step.units next).flatMap Step.unitOwned) next (step.code next).2 := by
  cases step with
  | text | output => exact .nil next
  | assign | inclusion => exact .single next
  | choose branches => exact branches.owned_covers .holds next
  | switch subject branches =>
      have own : Covers ([next] ++ []) next (next + 1) := .single next
      exact own.append (branches.owned_covers (.equals next) (next + 1))
  | loop plan iterable body otherwise =>
      have own : Covers (plan.declared (plan.locals next) ++ []) next (plan.locals next).behind := by
        rw [List.append_nil]
        exact plan.declared_covers next
      have inside := own.append (Step.ownedAll_covers body (plan.locals next).behind)
      simp only [Step.owned, Step.units, Step.code, List.flatMap_append]
      split
      · exact inside.append (Step.ownedAll_covers otherwise _)
      · exact inside.append (.nil _)
  | nested body =>
      have inside := Step.ownedAll_covers body next
      simp only [Step.owned, Step.units, Step.code, List.flatMap_append, List.flatMap_singleton, List.nil_append]
      exact ⟨inside.le, fun n => by rw [← inside.count, List.count_append, List.count_append, Nat.add_comm, Step.unitOwned]⟩

theorem Step.ownedAll_covers (steps : List Step) (next : Nat) :
    Covers (Step.ownedAll next steps ++ (Step.unitsAll next steps).flatMap Step.unitOwned) next (Step.codeAll next steps).2 := by
  cases steps with
  | nil => exact .nil next
  | cons step steps =>
      rw [Step.ownedAll, Step.unitsAll, List.flatMap_append]
      exact (step.owned_covers next).append (Step.ownedAll_covers steps _)

theorem Branches.owned_covers (branches : Branches) (test : Code.Expr → Code.Test) (next : Nat) :
    Covers (branches.owned next ++ (branches.units next).flatMap Step.unitOwned) next (branches.code test next).2 := by
  cases branches with
  | done => exact .nil next
  | otherwise body => exact Step.ownedAll_covers body next
  | orElse value body rest =>
      rw [Branches.owned, Branches.units, List.flatMap_append]
      exact (Step.ownedAll_covers body next).append (rest.owned_covers test _)

end

mutual

/-- The expressions of a nested template are expressions of the step that it is nested in. -/
theorem Step.values_units (step : Step) (next : Nat) : ∀ unit ∈ step.units next, Step.valuesAll unit.2 ⊆ step.values := by
  cases step with
  | text | output | assign | inclusion => exact nofun
  | choose branches => exact branches.values_units next
  | switch subject branches =>
      exact fun unit member => List.subset_cons_of_subset _ (branches.values_units _ unit member)
  | loop plan iterable body otherwise =>
      intro unit member
      apply List.subset_cons_of_subset
      rcases List.mem_append.mp member with inBody | inOther
      · exact List.subset_append_of_subset_left _ (Step.valuesAll_units body _ unit inBody)
      · split at inOther
        · exact List.subset_append_of_subset_right _ (Step.valuesAll_units otherwise _ unit inOther)
        · cases inOther
  | nested body =>
      intro unit member
      rcases List.mem_append.mp member with inner | itself
      · exact Step.valuesAll_units body next unit inner
      · cases List.mem_singleton.mp itself
        exact List.Subset.refl _

theorem Step.valuesAll_units (steps : List Step) (next : Nat) :
    ∀ unit ∈ Step.unitsAll next steps, Step.valuesAll unit.2 ⊆ Step.valuesAll steps := by
  cases steps with
  | nil => exact nofun
  | cons step steps =>
      intro unit member
      rcases List.mem_append.mp member with own | later
      · exact List.subset_append_of_subset_left _ (step.values_units next unit own)
      · exact List.subset_append_of_subset_right _ (Step.valuesAll_units steps _ unit later)

theorem Branches.values_units (branches : Branches) (next : Nat) :
    ∀ unit ∈ branches.units next, Step.valuesAll unit.2 ⊆ branches.values := by
  cases branches with
  | done => exact nofun
  | otherwise body => exact Step.valuesAll_units body next
  | orElse value body rest =>
      intro unit member
      apply List.subset_cons_of_subset
      rcases List.mem_append.mp member with own | later
      · exact List.subset_append_of_subset_left _ (Step.valuesAll_units body next unit own)
      · exact List.subset_append_of_subset_right _ (rest.values_units _ unit later)

end

end Compile

end Templating
