import Templating.Proofs.LoopMarks
import Mathlib.Logic.Function.Iterate

/-! # Effects of the default passes

A default pass writes on a node what the tree says of it, whatever other default passes have written before, and at most one
of them writes on a node at all. So every order and every number of default passes and of runs leaves the same annotations.
-/

namespace Templating

namespace Annotations

end Annotations

namespace Arena

section

variable {r : Registries} {arena later : Arena} {id : NodeId} {node : Node} {ancestors : List NodeId}

theorem IsTree.exists_lineage (isTree : arena.IsTree r) (there : arena.get? id = some node) :
    ∃ ancestors, arena.Lineage id ancestors := by
  -- Owners stand behind what they own, so the way up ends.
  induction rest : arena.size - id.index using Nat.strong_induction_on generalizing id node with
  | _ rest ih =>
      by_cases isRoot : arena.root = some id
      · exact ⟨[], .root isRoot⟩
      · obtain ⟨parent, once, -⟩ := isTree.parent there isRoot
        have owns : id ∈ arena.children parent := List.count_pos_iff.mp (by rw [once]; exact Nat.one_pos)
        obtain ⟨owner, stands, -⟩ := exists_of_mem_children owns
        have := isTree.child_lt owns
        obtain ⟨ancestors, lineage⟩ := ih (arena.size - parent.index) (by omega) stands rfl
        exact ⟨parent :: ancestors, .child owns lineage⟩

theorem Lineage.mem_walk (isTree : arena.IsTree r) (lineage : arena.Lineage id ancestors) (isEntry : Bool) :
    ⟨isEntry, id, ancestors⟩ ∈ arena.walk := by
  -- What is left of the depth at a node covers the nodes below it, since their numbers are smaller.
  have reaches : ∃ depth, id.index < depth ∧ ∀ visit ∈ arena.walkFrom depth ancestors id, visit ∈ arena.walk := by
    induction lineage with
    | root isRoot =>
        obtain ⟨last, size, isLast⟩ := isTree.root
        rw [isRoot] at isLast
        cases isLast
        refine ⟨arena.size + 1, by rw [size]; dsimp only; omega, fun visit walked => ?_⟩
        rw [walk, isRoot]
        exact walked
    | @child id parent ancestors owns _ ih =>
        obtain ⟨depth, deep, walks⟩ := ih
        have := isTree.child_lt owns
        obtain ⟨depth, rfl⟩ : ∃ inner, depth = inner + 1 := ⟨depth - 1, by omega⟩
        refine ⟨depth, by omega, fun visit walked => walks visit ?_⟩
        rw [Arena.walkFrom]
        exact List.mem_cons_of_mem _ (List.mem_append_left _ (List.mem_flatMap.mpr ⟨id, owns, walked⟩))
  obtain ⟨depth, deep, walks⟩ := reaches
  obtain ⟨depth, rfl⟩ : ∃ inner, depth = inner + 1 := ⟨depth - 1, by omega⟩
  apply walks
  rw [Arena.walkFrom]
  cases isEntry with
  | true => exact List.mem_cons_self
  | false => exact List.mem_cons_of_mem _ (List.mem_append_right _ List.mem_cons_self)

theorem Remarks.children (remarks : arena.Remarks later) (id : NodeId) : later.children id = arena.children id := by
  rw [Arena.children, Arena.children]
  cases there : arena.get? id with
  | none => rw [remarks.none there]
  | some node =>
      obtain ⟨notes, here, -, -⟩ := remarks.node there
      rw [here]

theorem Remarks.walk (remarks : arena.Remarks later) : later.walk = arena.walk := by
  have below (depth : Nat) : ∀ ancestors id, later.walkFrom depth ancestors id = arena.walkFrom depth ancestors id := by
    induction depth with
    | zero => exact fun _ _ => rfl
    | succ depth ih =>
        intro ancestors id
        rw [walkFrom, walkFrom, remarks.children, funext (ih (id :: ancestors))]
  rw [Arena.walk, Arena.walk, remarks.root, remarks.size]
  split
  · exact below (arena.size + 1) _ _
  · rfl

end

end Arena

section

variable {r : Registries} {arena later : Arena} {visit : Visit} {id : NodeId} {node : Node} {notes : Annotations}
  {ancestors : List NodeId}

/-- What the default passes make of the annotations of a node below these nodes. -/
def Arena.settle (r : Registries) (arena : Arena) (id : NodeId) (ancestors : List NodeId) (notes : Annotations) :
    Annotations :=
  OutputSafety.enter r arena ⟨true, id, ancestors⟩ (LoopContext.enter r arena ⟨true, id, ancestors⟩ notes)

/-- What a pass makes of the annotations of a node at a visit of some node. -/
def Pass.effect (pass : Pass) (r : Registries) (arena : Arena) (visit : Visit) (id : NodeId) (notes : Annotations) :
    Annotations :=
  if visit.node = id then (if visit.isEntry then pass.enter else pass.leave) r arena visit notes else notes

section

variable {calls : List (Pass × Visit)}

end

/-- The later arena has the marks of the default passes on every node and differs in nothing else. -/
structure Arena.Settled (r : Registries) (arena later : Arena) : Prop where
  remarks : arena.Remarks later
  notes : ∀ {id ancestors node}, arena.Lineage id ancestors → arena.get? id = some node →
    later.get? id = some { node with notes := arena.settle r id ancestors node.notes }

theorem Arena.Settled.eq (isTree : arena.IsTree r) {other : Arena} (one : arena.Settled r later)
    (two : arena.Settled r other) : later = other := by
  have nodes : later.nodes = other.nodes := by
    refine Array.ext_getElem? fun index => ?_
    show later.get? ⟨index⟩ = other.get? ⟨index⟩
    cases there : arena.get? ⟨index⟩ with
    | none => rw [one.remarks.none there, two.remarks.none there]
    | some node =>
        obtain ⟨ancestors, lineage⟩ := isTree.exists_lineage there
        rw [one.notes lineage there, two.notes lineage there]
  have root : later.root = other.root := one.remarks.root.trans two.remarks.root.symm
  obtain ⟨_, _⟩ := later
  obtain ⟨_, _⟩ := other
  cases nodes
  cases root
  rfl

end

end Templating
