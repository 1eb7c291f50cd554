import Templating.Value.Basic

/-! # Scopes of variables

The variables that a running template sees: a stack of scopes, of which the innermost one is written to.
A checkpoint starts a journal of the writes; rolling back to it undoes every write that was made since to
the scope that was innermost at the checkpoint.
-/

namespace Templating

/-- Names with their values, in ascending order of the names. -/
abbrev Scope := List (String × Value)

namespace Scope

/-- The value of a name. -/
def get? (scope : Scope) (name : String) : Option Value :=
  scope.lookup name

/-- Gives a name a value. -/
def set (scope : Scope) (name : String) (value : Value) : Scope :=
  insertByKey name value scope

/-- Takes the value of a name away. -/
def erase (scope : Scope) (name : String) : Scope :=
  scope.filter fun entry => entry.1 != name

/-- Gives a name the value it had before, or none. -/
def restore (scope : Scope) (name : String) (previous : Option Value) : Scope :=
  match previous with
  | some value => scope.set name value
  | none => scope.erase name

end Scope

/-- A write that can be undone. -/
structure Write where
  /-- How many scopes there were. -/
  depth : Nat
  /-- The name that was written. -/
  name : String
  /-- The value it had in the innermost scope. -/
  previous : Option Value
deriving Repr, Inhabited

/-- A place in the journal of a context. -/
structure Checkpoint where
  /-- How many writes the journal held. -/
  written : Nat
  /-- How many scopes there were. -/
  depth : Nat
deriving Repr, DecidableEq, BEq, Inhabited

/-- The variables of a running template. There is always a scope. -/
structure Context where
  /-- The scope that is written to. -/
  innermost : Scope := []
  /-- The scopes around it, the nearest first. -/
  enclosing : List Scope := []
  /-- The writes since the oldest open checkpoint, the latest first. -/
  journal : List Write := []
  /-- How many checkpoints wait to be rolled back. -/
  openCheckpoints : Nat := 0
deriving Repr, Inhabited

namespace Context

/-- The scopes, the innermost first. -/
def scopes (context : Context) : List Scope :=
  context.innermost :: context.enclosing

/-- How many scopes there are. -/
def depth (context : Context) : Nat :=
  context.scopes.length

/-- A context whose only scope holds `globals`. -/
def ofGlobals (globals : Scope) : Context :=
  { innermost := globals }

/-- The value that the innermost scope with the name gives it. -/
def get? (context : Context) (name : String) : Option Value :=
  context.scopes.findSome? fun scope => scope.get? name

/-- The value of a name, null if there is none. -/
def get (context : Context) (name : String) : Value :=
  (context.get? name).getD .null

/-- Whether some scope gives the name a value. -/
def contains (context : Context) (name : String) : Bool :=
  (context.get? name).isSome

/-- Notes a write in the journal while a checkpoint is open. -/
def record (context : Context) (name : String) (previous : Option Value) : Context :=
  if context.openCheckpoints = 0 then context
  else { context with journal := ⟨context.depth, name, previous⟩ :: context.journal }

/-- Gives a name a value in the innermost scope. -/
def set (context : Context) (name : String) (value : Value) : Context :=
  { context.record name (context.innermost.get? name) with
    innermost := context.innermost.set name value }

/-- Takes a name out of the innermost scope. -/
def remove (context : Context) (name : String) : Context :=
  match context.innermost.get? name with
  | none => context
  | some value =>
    { context.record name (some value) with innermost := context.innermost.erase name }

/-- Opens a scope. -/
def pushScope (context : Context) : Context :=
  { context with innermost := [], enclosing := context.innermost :: context.enclosing }

/-- Closes the innermost scope, unless it is the only one. -/
def popScope (context : Context) : Context :=
  match context.enclosing with
  | [] => context
  | scope :: outer => { context with innermost := scope, enclosing := outer }

/-- Where the journal stands now. -/
def mark (context : Context) : Checkpoint :=
  ⟨context.journal.length, context.depth⟩

/-- Opens a checkpoint at the mark. -/
def openCheckpoint (context : Context) : Context :=
  { context with openCheckpoints := context.openCheckpoints + 1 }

/-- Changes the scope that was innermost when there were `depth` scopes. -/
def modifyScopeAt (context : Context) (depth : Nat) (change : Scope → Scope) : Context :=
  if depth = context.depth then { context with innermost := change context.innermost }
  else if 0 < depth ∧ depth < context.depth then
    { context with enclosing := context.enclosing.modify (context.enclosing.length - depth) change }
  else context

/-- Undoes the writes made to a scope of the given depth, in the order of the list. -/
def undo (depth : Nat) (writes : List Write) (scope : Scope) : Scope :=
  (writes.filter fun write => write.depth == depth).foldl
    (fun scope write => scope.restore write.name write.previous) scope

/-- Undoes the writes made since a checkpoint to the scope that was innermost at it, and closes the
checkpoint. Writes to scopes opened since are forgotten with those scopes. -/
def rollback (context : Context) (checkpoint : Checkpoint) : Context :=
  let since := context.journal.length - checkpoint.written
  let undone := context.modifyScopeAt checkpoint.depth (undo checkpoint.depth (context.journal.take since))
  { undone with
    journal := context.journal.drop since
    openCheckpoints := context.openCheckpoints - 1 }

end Context

end Templating
