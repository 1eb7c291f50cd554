import Templating.Proofs.Checkpoint
import Templating.Proofs.Outcome
import Templating.Proofs.Program

/-! # Statements and their meaning

`Follows` relates a machine that runs statements to what the statements mean: machine and meaning agree on
every variable and on the output, the machine's context can be taken back to where the statements started,
and no local with a smaller number has changed.
-/

namespace Templating

namespace Context

/-- Two contexts give every name the same value. -/
def Alike (left right : Context) : Prop :=
  ∀ name, left.get? name = right.get? name

theorem get?_eq (context : Context) (name : String) :
    context.get? name =
      (context.innermost.get? name).or (context.enclosing.findSome? fun scope => scope.get? name) := by
  simp only [get?, scopes, List.findSome?_cons]
  cases context.innermost.get? name <;> rfl

theorem get?_set (context : Context) (name other : String) (value : Value) :
    (context.set name value).get? other = if other = name then some value else context.get? other := by
  have enclosing : (context.set name value).enclosing = context.enclosing :=
    (Restorable.set context name value).enclosing
  have innermost : (context.set name value).innermost = context.innermost.set name value := rfl
  rw [get?_eq, get?_eq, enclosing, innermost, Scope.get?_set]
  split <;> rfl

theorem get?_pushScope (context : Context) (name : String) :
    context.pushScope.get? name = context.get? name :=
  rfl

namespace Alike

theorem set {left right : Context} (alike : Alike left right) (name : String) (value : Value) :
    Alike (left.set name value) (right.set name value) := by
  intro other
  rw [get?_set, get?_set, alike other]

theorem get {left right : Context} (alike : Alike left right) (name : String) :
    left.get name = right.get name := by
  rw [Context.get, Context.get, alike name]

theorem contains {left right : Context} (alike : Alike left right) (name : String) :
    left.contains name = right.contains name := by
  rw [Context.contains, Context.contains, alike name]

end Alike

/-- Closing a scope gives the variables back as they were when it was opened. -/
theorem Restorable.alike_popScope {base now : Context} (run : Restorable base.pushScope now) :
    Alike now.popScope base := by
  have enclosing : now.enclosing = base.innermost :: base.enclosing := run.enclosing
  intro name
  simp only [Context.popScope, enclosing, get?_eq]

/-- Rolling back gives the variables back as they were at the checkpoint. -/
theorem Restorable.alike_rollback {base now : Context} (run : Restorable base.openCheckpoint now) :
    Alike (now.rollback base.mark) base := by
  obtain ⟨scope, rolledBack, same, _⟩ := run.rollback_eq
  intro name
  rw [rolledBack, get?_eq, get?_eq, same name]

end Context

/-- The environment with other templates. -/
def Environment.withTemplates (env : Environment) (templates : List (String × List Code.Stmt)) : Environment :=
  { env with templates := templates }

/-- The environment with programs for its templates. -/
def Environment.withPrograms (env : Environment) (table : List (String × List Compile.Step)) : Environment :=
  { env with templates := table.map fun entry => (entry.1, Compile.Step.body entry.2) }

namespace Code

open Context (Alike Restorable)

mutual

/-- An expression depends on the variables only through their values, and not on the templates at all. -/
theorem eval_congr (env : Environment) (templates : List (String × List Stmt)) {left right : Context}
    (alike : Alike left right) (e : Expr) : eval (env.withTemplates templates) left e = eval env right e := by
  cases e with
  | constant v => rfl
  | list items => simp only [eval, evalAll_congr env templates alike items]
  | «variable» name => simp only [eval, alike.get name]
  | bound name => simp only [eval, alike.contains name]
  | index base key => simp only [eval, eval_congr env templates alike base, eval_congr env templates alike key]
  | unary operation operand => simp only [eval, eval_congr env templates alike operand]
  | binary operation left right =>
      simp only [eval, eval_congr env templates alike left, eval_congr env templates alike right]
      rfl
  | both left right | either left right =>
      simp only [eval, eval_congr env templates alike left, eval_congr env templates alike right]
  | negation operand => simp only [eval, eval_congr env templates alike operand]
  | choice condition accepted rejected =>
      simp only [eval, eval_congr env templates alike condition, eval_congr env templates alike accepted,
        eval_congr env templates alike rejected]
  | callPath path args =>
      simp only [eval, evalAll_congr env templates alike args]
      rfl
  | callExtension extension method args =>
      simp only [eval, evalAll_congr env templates alike args]
      rfl
  | callBinding binding args =>
      simp only [eval, evalAll_congr env templates alike args]
      rfl
  | callHelper name args =>
      simp only [eval, evalAll_congr env templates alike args]
      rfl
  | callMethod receiver name args =>
      simp only [eval, eval_congr env templates alike receiver, evalAll_congr env templates alike args]
      rfl
termination_by structural e

theorem evalAll_congr (env : Environment) (templates : List (String × List Stmt)) {left right : Context}
    (alike : Alike left right) (items : List Expr) :
    evalAll (env.withTemplates templates) left items = evalAll env right items := by
  cases items with
  | nil => rfl
  | cons item rest => simp only [evalAll, eval_congr env templates alike item, evalAll_congr env templates alike rest]
termination_by structural items

end

/-- Two runs fail alike, or end in results that are related. -/
inductive Matches {α β : Type} (related : α → β → Prop) : Except Failure α → Except Failure β → Prop where
  /-- Both runs end. -/
  | ok {a : α} {b : β} : related a b → Matches related (.ok a) (.ok b)
  /-- Both runs fail with the same failure. -/
  | error (failure : Failure) : Matches related (.error failure) (.error failure)

namespace Matches

variable {α β γ δ : Type} {related : α → β → Prop} {after : γ → δ → Prop}

theorem bind {left : Except Failure α} {right : Except Failure β} {f : α → Except Failure γ}
    {g : β → Except Failure δ} (first : Matches related left right)
    (next : ∀ a b, related a b → Matches after (f a) (g b)) : Matches after (left >>= f) (right >>= g) := by
  cases first with
  | ok holds => exact next _ _ holds
  | error failure => exact .error failure

theorem bind_same {result : Except Failure α} {f : α → Except Failure γ} {g : α → Except Failure δ}
    (next : ∀ a, Matches after (f a) (g a)) : Matches after (result >>= f) (result >>= g) := by
  cases result with
  | ok a => exact next a
  | error failure => exact .error failure

theorem mono {left : Except Failure α} {right : Except Failure β} {weaker : α → β → Prop}
    (matched : Matches related left right) (imply : ∀ a b, related a b → weaker a b) :
    Matches weaker left right := by
  cases matched with
  | ok holds => exact .ok (imply _ _ holds)
  | error failure => exact .error failure

theorem map_eq {left : Except Failure α} {right : Except Failure β} {f : α → γ} {g : β → γ}
    (matched : Matches related left right) (same : ∀ a b, related a b → f a = g b) : left.map f = right.map g := by
  cases matched with
  | ok holds => exact congrArg Except.ok (same _ _ holds)
  | error failure => rfl

theorem compare {left : Except Failure α} {right : Except Failure γ} {common : Except Failure β}
    {other : γ → β → Prop} {both : α → γ → Prop} (first : Matches related left common)
    (second : Matches other right common) (combine : ∀ a c b, related a b → other c b → both a c) :
    Matches both left right := by
  cases first with
  | ok holds =>
      cases second with
      | ok holds' => exact .ok (combine _ _ _ holds holds')
  | error failure =>
      cases second with
      | error => exact .error failure

end Matches

theorem execAll_append (env : Environment) (includer : Includer) (m : Machine) (first rest : List Stmt) :
    execAll env includer m (first ++ rest) =
      execAll env includer m first >>= fun m => execAll env includer m rest := by
  induction first generalizing m with
  | nil => rfl
  | cons statement first ih =>
      simp only [List.cons_append, execAll, ih, bind_assoc]

theorem execAll_singleton (env : Environment) (includer : Includer) (m : Machine) (statement : Stmt) :
    execAll env includer m [statement] = exec env includer m statement := by
  simp only [execAll]
  cases exec env includer m statement <;> rfl

theorem lookup_hold (m : Machine) (target k : Nat) (content : Local) :
    (m.hold target content).locals.lookup k = if k = target then some content else m.locals.lookup k := by
  by_cases same : k = target
  · simp [Machine.hold, same]
  · simp [Machine.hold, List.lookup_cons, beq_eq_false_iff_ne.mpr same, same]

/-- A machine has the output and the variables that are meant. -/
structure Agrees (m : Machine) (meaning : Context × Output) : Prop where
  output : m.output = meaning.2
  alike : Alike m.context meaning.1

/-- Where statements with locals from `next` on have led from `m`, beside the meaning of what they say. -/
structure Follows (next : Nat) (m now : Machine) (meaning : Context × Output) : Prop
    extends Agrees now meaning where
  restorable : Restorable m.context now.context
  locals : ∀ k < next, now.locals.lookup k = m.locals.lookup k

namespace Follows

theorem refl (next : Nat) {m : Machine} {meaning : Context × Output} (agrees : Agrees m meaning) :
    Follows next m m meaning :=
  ⟨agrees, .refl _, fun _ _ => rfl⟩

theorem trans {next later : Nat} {m middle now : Machine} {first second : Context × Output}
    (start : Follows next m middle first) (rest : Follows later middle now second) (up : next ≤ later) :
    Follows next m now second where
  output := rest.output
  alike := rest.alike
  restorable := start.restorable.trans rest.restorable
  locals := fun k small => (rest.locals k (Nat.lt_of_lt_of_le small up)).trans (start.locals k small)

theorem mono {next later : Nat} {m now : Machine} {meaning : Context × Output}
    (follows : Follows later m now meaning) (up : next ≤ later) : Follows next m now meaning :=
  { follows with locals := fun k small => follows.locals k (Nat.lt_of_lt_of_le small up) }

/-- Putting something into a fresh local changes nothing that is meant. -/
theorem hold {next target : Nat} {m now : Machine} {meaning : Context × Output}
    (follows : Follows next m now meaning) (fresh : next ≤ target) (content : Local) :
    Follows next m (now.hold target content) meaning where
  toAgrees := ⟨follows.output, follows.alike⟩
  restorable := follows.restorable
  locals := by
    intro k small
    rw [lookup_hold, if_neg (by omega), follows.locals k small]

theorem set {next : Nat} {m now : Machine} {context : Context} {output : Output}
    (follows : Follows next m now (context, output)) (name : String) (value : Value) :
    Follows next m (now.withContext (·.set name value)) (context.set name value, output) where
  output := follows.output
  alike := follows.alike.set name value
  restorable := follows.restorable.trans (.set _ name value)
  locals := follows.locals

end Follows

/-- The two ways to include, by statements and by meaning, agree. -/
def IncludesAlike (concrete meant : Includer) : Prop :=
  ∀ (name : Value) (left right : Context) (output : Output), Alike left right →
    Matches (fun now meaning => now.2 = meaning.2 ∧ Alike now.1 meaning.1 ∧ Restorable left now.1)
      (concrete name left output) (meant name right output)

end Code

end Templating
