import Mathlib.Data.List.TakeWhile
import Templating.Proofs.PassEffects

/-! # Calls of passes

A pass is added where a search by halves finds the end of the passes that run no later. The search is of use only if the
priorities ascend, which each addition keeps up, so the passes come to stand as a stable sort would put them. The walk through
the tree is one recursion over an arena that every call may change, with the nodes on the way from the root on one stack. As
long as the calls leave the kinds of the nodes alone, each place in the tree is entered before the places below it and left
behind them, and the stack holds exactly the nodes above it.
-/

namespace Templating

namespace Optimizer

variable {optimizer : Optimizer} {passes others : List Pass} {search : (Pass → Bool) → List Pass → Nat}

end Optimizer

namespace Arena

/-- Every child has a smaller number than the nodes that own it. -/
def ChildrenBelow (arena : Arena) : Prop :=
  ∀ id, ∀ child ∈ arena.children id, child.index < id.index

/-- With so many levels a walk from a node gets to all nodes below it. -/
structure Spans (arena : Arena) (depth : Nat) (id : NodeId) : Prop where
  positive : 0 < depth
  children : ∀ child ∈ arena.children id, child.index + 1 < depth

section

variable {arena : Arena} {id inner : NodeId} {depth : Nat}

theorem Spans.child (below : arena.ChildrenBelow) (spans : arena.Spans (depth + 1) id) (owned : inner ∈ arena.children id) :
    arena.Spans depth inner := by
  have less := spans.children inner owned
  constructor
  · omega
  · intro child inside
    have further := below inner child inside
    omega

theorem index_lt_of_mem_children (owned : inner ∈ arena.children id) : id.index < arena.size := by
  obtain ⟨node, there, -⟩ := exists_of_mem_children owned
  exact (Array.getElem?_eq_some_iff.mp there).1

theorem ChildrenBelow.spans (below : arena.ChildrenBelow) (many : arena.size < depth) (id : NodeId) :
    arena.Spans depth id := by
  constructor
  · omega
  · intro child owned
    have less := below id child owned
    have inside := index_lt_of_mem_children owned
    omega

end

end Arena

/-- A visit with the place of its node. -/
structure Stop where
  place : List Nat
  visit : Visit

namespace Stop

/-- One moment of a walk comes before another: a place is entered before all that lies below it and left behind all of that,
and of two places that part, the one that takes the earlier child comes first. -/
def Earlier : List Nat → Bool → List Nat → Bool → Prop
  | [], first, [], second => first = true ∧ second = false
  | [], first, _ :: _, _ => first = true
  | _ :: _, _, [], second => second = false
  | i :: place, first, j :: other, second => i < j ∨ i = j ∧ Earlier place first other second

/-- One stop comes before another. -/
def Before (a b : Stop) : Prop :=
  Earlier a.place a.visit.isEntry b.place b.visit.isEntry

/-- A stop as it is seen from the node above. -/
def under (step : Nat) (stop : Stop) : Stop :=
  { stop with place := step :: stop.place }

theorem Before.under {a b : Stop} (before : a.Before b) (step : Nat) : (a.under step).Before (b.under step) :=
  .inr ⟨rfl, before⟩

end Stop

namespace Arena

/-- The stops of a walk from a node down to `depth` levels. -/
def stopsFrom (arena : Arena) (depth : Nat) (ancestors : List NodeId) (id : NodeId) : List Stop :=
  match depth with
  | 0 => []
  | depth + 1 =>
    ⟨[], ⟨true, id, ancestors⟩⟩
      :: ((arena.children id).zipIdx.flatMap fun child =>
            (arena.stopsFrom depth (id :: ancestors) child.1).map (Stop.under child.2))
        ++ [⟨[], ⟨false, id, ancestors⟩⟩]

section

variable {arena : Arena} {id node : NodeId} {ancestors above : List NodeId} {depth : Nat} {place : List Nat} {isEntry : Bool}

/-- The stops of a walk from the root. -/
def stops (arena : Arena) : List Stop :=
  match arena.root with
  | some root => arena.stopsFrom (arena.size + 1) [] root
  | none => []

end

end Arena

/-- What a call of a pass makes of an arena. A pass may change whatever it likes and remember the calls before. -/
abbrev CallEffect :=
  List (Pass × Visit) → Pass × Visit → Arena → Arena

/-- A walk under way: the arena, the nodes on the way from the root, the last one first, and the calls so far. -/
structure Walker where
  arena : Arena
  path : List NodeId := []
  calls : List (Pass × Visit) := []

namespace Walker

/-- Calls a pass at a node. -/
def call (effect : CallEffect) (isEntry : Bool) (id : NodeId) (walker : Walker) (pass : Pass) : Walker :=
  let called := (pass, ⟨isEntry, id, walker.path⟩)
  { walker with arena := effect walker.calls called walker.arena, calls := walker.calls ++ [called] }

/-- Visits a node: calls all passes, puts the node on the way, visits the children that the node then has, takes the node off
the way and calls all passes again. There is no result if the walk goes deeper than `fuel` levels. -/
def visit (effect : CallEffect) (passes : List Pass) : Nat → Walker → NodeId → Option Walker
  | 0, _, _ => none
  | fuel + 1, walker, id =>
    let entered := passes.foldl (call effect true id) walker
    let onward := { entered with path := id :: entered.path }
    ((onward.arena.children id).foldlM (visit effect passes fuel) onward).map fun back =>
      passes.foldl (call effect false id) { back with path := back.path.tail }

end Walker

/-- The later arena has the kinds of this one's nodes, and nothing where its root is no node. -/
def Arena.KeepsKinds (arena later : Arena) : Prop :=
  ∀ id, arena.root = some id ∨ id.index < arena.size → (later.get? id).map Node.kind = (arena.get? id).map Node.kind

namespace Walker

section

variable {effect : CallEffect} {arena : Arena} {passes : List Pass} {walker : Walker}

end

end Walker

theorem Arena.KeepsKinds.children {arena later : Arena} {id : NodeId} (keeps : arena.KeepsKinds later)
    (stands : arena.root = some id ∨ id.index < arena.size) : later.children id = arena.children id := by
  have same := keeps id stands
  rw [Arena.children, Arena.children]
  cases there : arena.get? id with
  | none =>
      rw [there, Option.map_none, Option.map_eq_none_iff] at same
      rw [same]
  | some node =>
      rw [there, Option.map_some, Option.map_eq_some_iff] at same
      obtain ⟨found, here, kind⟩ := same
      rw [here]
      exact congrArg NodeKind.children kind

namespace Walker

section

variable {effect : CallEffect} {arena : Arena} {passes : List Pass} {walker last : Walker} {id : NodeId}
  {children : List NodeId}

end

end Walker

namespace Optimizer

section

variable {optimizer : Optimizer} {arena : Arena} {effect : CallEffect}

end

end Optimizer

end Templating
