import Templating.Pass.Standard
import Templating.Proofs.ArenaLayout

/-! # What passes leave of a tree

An arena gives the tree back that it was made of. The passes change annotations of tags only, and only
those that no tag makes when it is read, so the tree that is compiled has the shape of the tree that was
read. On tags that print they note whether the value is text or a direct call of a safe function.
-/

namespace Templating

/-- The tree of a node, given the trees of its children. -/
def NodeKind.toTree (below : NodeId → Tree) (line : Nat) (notes : Annotations) : NodeKind → Tree
  | .root children => .root (children.map below) line notes
  | .block children => .block (children.map below) line notes
  | .tag id children => .tag id (children.map below) line notes
  | .operator id left middle right => .operator id (left.map below) (middle.map below) (right.map below) line notes
  | .call callee receiver args => .call callee (receiver.map below) (args.map below) line notes
  | .data value => .data value line notes
  | .list items => .list (items.map below) line notes
  | .variable name => .variable name line notes
  | .identifier name => .identifier name line notes
  | .index base key => .index (below base) (below key) line notes

namespace Arena

theorem treeAt_succ {arena : Arena} {id : NodeId} {node : Node} (there : arena.get? id = some node) (depth : Nat) :
    arena.treeAt (depth + 1) id = node.kind.toTree (arena.treeAt depth) node.line node.notes := by
  rw [treeAt, there]
  obtain ⟨kind, line, notes⟩ := node
  cases kind <;> rfl

/-- The nodes of an arena stand in a later one under their numbers, and `depth` levels lead through them. -/
structure Within (arena later : Arena) (depth : Nat) : Prop where
  grows : ∀ id node, arena.get? id = some node → later.get? id = some node
  deep : arena.size ≤ depth

section

variable {r : Registries} {before after arena later : Arena} {roots : List NodeId} {tree : Tree} {depth : Nat}

theorem Within.of_laid (within : after.Within later depth) (laid : Laid r before roots after) :
    before.Within later depth := by
  obtain ⟨new, nodes, -, -, -⟩ := laid
  refine ⟨fun id node there => within.grows id node ?_, ?_⟩
  · rw [get?, ← Array.getElem?_toList] at there ⊢
    rw [nodes, List.getElem?_append_left (List.getElem?_eq_some_iff.mp there).1]
    exact there
  · have := within.deep
    rw [size_of_append nodes] at this
    omega

theorem treeAt_push {kind : NodeKind} {line : Nat} {notes : Annotations}
    (within : (arena.push kind line notes).2.Within later depth)
    (children : ∀ inner, arena.Within later inner → kind.toTree (later.treeAt inner) line notes = tree) :
    later.treeAt depth (arena.push kind line notes).1 = tree := by
  have size : (arena.push kind line notes).2.size = arena.size + 1 := Array.size_push _
  have deep := within.deep
  obtain ⟨inner, rfl⟩ : ∃ inner, depth = inner + 1 := ⟨depth - 1, by omega⟩
  have there := within.grows ⟨arena.size⟩ _ (arena.get?_push_size kind line notes)
  rw [push, treeAt_succ there]
  refine children inner ⟨fun id node found => within.grows id node ?_, by omega⟩
  obtain ⟨inside, -⟩ := Array.getElem?_eq_some_iff.mp found
  rw [get?, push, Array.getElem?_push_lt inside, ← found, get?, Array.getElem?_eq_getElem inside]

/-- A tree that was added is found again at its number. -/
def ReadsBack (tree : Tree) : Prop :=
  ∀ {arena later : Arena} {depth : Nat}, (arena.add tree).2.Within later depth →
    later.treeAt depth (arena.add tree).1 = tree

theorem treeAt_addAll {trees : List Tree} (sound : ∀ tree ∈ trees, tree.Sound r)
    (each : ∀ tree ∈ trees, ReadsBack tree) (within : (arena.addAll trees).2.Within later depth) :
    (arena.addAll trees).1.map (later.treeAt depth) = trees := by
  induction trees generalizing arena with
  | nil => rfl
  | cons tree trees ih =>
      obtain ⟨_, sound⟩ := List.forall_mem_cons.mp sound
      obtain ⟨first, rest⟩ := List.forall_mem_cons.mp each
      rw [addAll] at within ⊢
      have onward := laid_addAll (fun tree member => laid_add (sound tree member)) (arena.add tree).2
      exact congrArg₂ List.cons (first (within.of_laid onward)) (ih sound rest within)

theorem treeAt_addOption {tree : Option Tree} (each : ∀ found ∈ tree, ReadsBack found)
    (within : (arena.addOption tree).2.Within later depth) :
    (arena.addOption tree).1.map (later.treeAt depth) = tree := by
  cases tree with
  | none => rfl
  | some tree => exact congrArg some (each tree rfl within)

theorem readsBack_of_sound (sound : tree.Sound r) : ReadsBack tree := by
  induction sound with
  | root sound children =>
      intro arena later depth within
      rw [add] at within ⊢
      refine treeAt_push within fun inner within => ?_
      rw [NodeKind.toTree, treeAt_addAll sound children within]
  | block sound children =>
      intro arena later depth within
      rw [add] at within ⊢
      refine treeAt_push within fun inner within => ?_
      rw [NodeKind.toTree, treeAt_addAll sound children within]
  | tag _ sound children =>
      intro arena later depth within
      rw [add] at within ⊢
      refine treeAt_push within fun inner within => ?_
      rw [NodeKind.toTree, treeAt_addAll sound children within]
  | operator _ _ _ _ left middle right lefts middles rights =>
      intro arena later depth within
      rw [add] at within ⊢
      refine treeAt_push within fun inner within => ?_
      have between := within.of_laid (laid_addOption (fun tree member => laid_add (right tree member)) _)
      have first := between.of_laid (laid_addOption (fun tree member => laid_add (middle tree member)) _)
      rw [NodeKind.toTree, treeAt_addOption lefts first, treeAt_addOption middles between, treeAt_addOption rights within]
  | call _ receiver args receivers children =>
      intro arena later depth within
      rw [add] at within ⊢
      refine treeAt_push within fun inner within => ?_
      have first := within.of_laid (laid_addAll (fun tree member => laid_add (args tree member)) _)
      rw [NodeKind.toTree, treeAt_addOption receivers first, treeAt_addAll args children within]
  | data =>
      intro arena later depth within
      rw [add] at within ⊢
      exact treeAt_push within fun _ _ => rfl
  | list sound items =>
      intro arena later depth within
      rw [add] at within ⊢
      refine treeAt_push within fun inner within => ?_
      rw [NodeKind.toTree, treeAt_addAll sound items within]
  | name =>
      intro arena later depth within
      rw [add] at within ⊢
      exact treeAt_push within fun _ _ => rfl
  | identifier =>
      intro arena later depth within
      rw [add] at within ⊢
      exact treeAt_push within fun _ _ => rfl
  | index _ key bases keys =>
      intro arena later depth within
      rw [add] at within ⊢
      refine treeAt_push within fun inner within => ?_
      rw [NodeKind.toTree, bases (within.of_laid (laid_add key _)), keys within]

theorem toTree?_ofTree (sound : tree.Sound r) : (ofTree tree).toTree? = some tree :=
  congrArg some (readsBack_of_sound sound ⟨fun _ _ there => there, Nat.le_refl _⟩)

end

end Arena

/-- The annotations that passes make. -/
def marks : List String :=
  ["needs_temp", "reuse_context", "safe"]

/-- Annotations that differ in marks at most. -/
def Annotations.Alike (notes later : Annotations) : Prop :=
  ∀ key ∉ marks, later.get? key = notes.get? key

namespace Annotations.Alike

variable {notes between later : Annotations} {key : String}

theorem refl (notes : Annotations) : notes.Alike notes :=
  fun _ _ => rfl

theorem trans (first : notes.Alike between) (second : between.Alike later) : notes.Alike later :=
  fun key other => (second key other).trans (first key other)

theorem set (alike : notes.Alike later) (marked : key ∈ marks) (value : Annotation) :
    notes.Alike (later.set key value) := by
  intro other different
  rw [get?_set, if_neg (by rintro rfl; exact different marked)]
  exact alike other different

theorem flag (alike : notes.Alike later) (other : key ∉ marks) (absent : Bool) :
    later.flag key absent = notes.flag key absent := by
  rw [Annotations.flag, alike key other, Annotations.flag]

theorem text? (alike : notes.Alike later) (other : key ∉ marks) : later.text? key = notes.text? key := by
  rw [Annotations.text?, alike key other, Annotations.text?]

end Annotations.Alike

namespace Arena

/-- The later arena differs in the marks of tags at most. -/
structure Remarks (arena later : Arena) : Prop where
  root : later.root = arena.root
  size : later.size = arena.size
  node : ∀ {id node}, arena.get? id = some node → ∃ notes, later.get? id = some { node with notes := notes } ∧
    node.notes.Alike notes ∧ (node.kind.isTag = false → notes = node.notes)

section

variable {arena between later : Arena} {id : NodeId}

theorem Remarks.refl (arena : Arena) : arena.Remarks arena :=
  ⟨rfl, rfl, fun there => ⟨_, there, .refl _, fun _ => rfl⟩⟩

theorem Remarks.trans (first : arena.Remarks between) (second : between.Remarks later) : arena.Remarks later := by
  refine ⟨second.root.trans first.root, second.size.trans first.size, ?_⟩
  intro id node there
  obtain ⟨notes, here, alike, kept⟩ := first.node there
  obtain ⟨notes', after, alike', kept'⟩ := second.node here
  exact ⟨notes', after, alike.trans alike', fun other => (kept' other).trans (kept other)⟩

theorem Remarks.none (remarks : arena.Remarks later) (nowhere : arena.get? id = none) : later.get? id = none := by
  have beyond := Array.getElem?_eq_none_iff.mp nowhere
  exact Array.getElem?_eq_none_iff.mpr (Nat.le_trans (Nat.le_of_eq remarks.size) beyond)

theorem get?_annotate (arena : Arena) (id other : NodeId) (change : Annotations → Annotations) :
    (arena.annotate id change).get? other =
      if id = other then (arena.get? other).map fun node => { node with notes := change node.notes }
      else arena.get? other := by
  have same : id.index = other.index ↔ id = other := ⟨congrArg NodeId.mk, congrArg NodeId.index⟩
  rw [get?, annotate, Array.getElem?_modify]
  simp only [same]
  rfl

theorem remarks_annotate {change : Annotations → Annotations}
    (fits : ∀ node, arena.get? id = some node →
      node.notes.Alike (change node.notes) ∧ (node.kind.isTag = false → change node.notes = node.notes)) :
    arena.Remarks (arena.annotate id change) := by
  refine ⟨rfl, Array.size_modify, ?_⟩
  intro other node there
  rw [get?_annotate, there]
  split
  · rename_i same
    subst same
    obtain ⟨alike, kept⟩ := fits node there
    exact ⟨change node.notes, rfl, alike, kept⟩
  · exact ⟨node.notes, rfl, .refl _, fun _ => rfl⟩

end

end Arena

theorem Optimizer.passes_standard : Optimizer.standard.passes = [LoopContext.pass, OutputSafety.pass] :=
  rfl

section

variable {r : Registries} {arena later : Arena} {visit : Visit} {id : NodeId} {node : Node}

theorem LoopContext.enter_alike (there : arena.get? visit.node = some node) :
    node.notes.Alike (enter r arena visit node.notes) ∧
      (node.kind.isTag = false → enter r arena visit node.notes = node.notes) := by
  rw [enter, there, Option.map_some]
  cases node.kind with
  | tag id children =>
      dsimp only
      split
      · exact ⟨((Annotations.Alike.refl _).set (by decide) _).set (by decide) _, nofun⟩
      · exact ⟨.refl _, nofun⟩
  | _ => exact ⟨.refl _, fun _ => rfl⟩

theorem OutputSafety.enter_alike (there : arena.get? visit.node = some node) :
    node.notes.Alike (enter r arena visit node.notes) ∧
      (node.kind.isTag = false → enter r arena visit node.notes = node.notes) := by
  rw [enter, there, Option.map_some]
  cases node.kind with
  | tag id children =>
      dsimp only
      split
      · exact ⟨(Annotations.Alike.refl _).set (by decide) _, nofun⟩
      · exact ⟨.refl _, nofun⟩
  | _ => exact ⟨.refl _, fun _ => rfl⟩

theorem Pass.run_remarks {pass : Pass} (standard : pass ∈ Optimizer.standard.passes) (r : Registries) (visit : Visit)
    (arena : Arena) : arena.Remarks (pass.run r visit arena) := by
  rw [Optimizer.passes_standard] at standard
  rw [Pass.run]
  refine Arena.remarks_annotate fun node there => ?_
  cases visit.isEntry with
  | false =>
      rcases List.mem_pair.mp standard with rfl | rfl
      · exact ⟨.refl _, fun _ => rfl⟩
      · exact ⟨.refl _, fun _ => rfl⟩
  | true =>
      rcases List.mem_pair.mp standard with rfl | rfl
      · exact LoopContext.enter_alike there
      · exact OutputSafety.enter_alike there

theorem LoopContext.enter_safe (r : Registries) (arena : Arena) (visit : Visit) (notes : Annotations) :
    (enter r arena visit notes).get? "safe" = notes.get? "safe" := by
  rw [enter]
  split
  · split
    · rw [Annotations.get?_set, if_neg (by decide), Annotations.get?_set, if_neg (by decide)]
    · rfl
  · rfl

/-- Whether a node that prints these children writes its value as it is. -/
def OutputSafety.isSafe (r : Registries) (arena : Arena) (notes : Annotations) (children : List NodeId) : Bool :=
  notes.flag "text" false || (children.head?.bind arena.get?).any (isSafeCall r)

theorem OutputSafety.isSafe_eq (remarks : arena.Remarks later) {notes notes' : Annotations} (alike : notes.Alike notes')
    (children : List NodeId) : isSafe r later notes' children = isSafe r arena notes children := by
  rw [isSafe, isSafe, alike.flag (by decide)]
  congr 1
  cases children.head? with
  | none => rfl
  | some child =>
      rw [Option.bind_some, Option.bind_some]
      cases there : arena.get? child with
      | none => rw [remarks.none there]
      | some node =>
          obtain ⟨notes, here, -, -⟩ := remarks.node there
          rw [here]
          rfl

/-- If a node prints, the later arena has a mark on it that says whether it writes its value as it is. -/
def Arena.Marks (r : Registries) (arena later : Arena) (id : NodeId) : Prop :=
  ∀ node tag children, arena.get? id = some node → node.kind = .tag tag children →
    (r.tags.get? tag).any (·.keyword == printKeyword) = true →
    ∀ found, later.get? id = some found →
      found.notes.get? "safe" = some (.bool (OutputSafety.isSafe r arena node.notes children))

theorem Arena.Marks.annotate (marked : arena.Marks r later id) (other : NodeId) {change : Annotations → Annotations}
    (kept : ∀ notes, (change notes).get? "safe" = notes.get? "safe") :
    arena.Marks r (later.annotate other change) id := by
  intro node tag children there kind prints found here
  rw [get?_annotate] at here
  split at here
  · obtain ⟨before, stands, rfl⟩ := Option.map_eq_some_iff.mp here
    exact (kept before.notes).trans (marked node tag children there kind prints before stands)
  · exact marked node tag children there kind prints found here

theorem OutputSafety.run_marks (remarks : arena.Remarks later) (entry : visit.isEntry = true) :
    arena.Marks r (OutputSafety.pass.run r visit later) visit.node := by
  intro node tag children there kind prints found here
  obtain ⟨notes, stands, alike, -⟩ := remarks.node there
  rw [Pass.run, Arena.get?_annotate, if_pos rfl, stands, entry] at here
  cases here
  have entered : OutputSafety.enter r later visit notes =
      notes.set "safe" (.bool (isSafe r later notes children)) := by
    rw [enter, stands, Option.map_some]
    simp only [kind, prints]
    rfl
  show (OutputSafety.enter r later visit notes).get? "safe" = _
  rw [entered, Annotations.get?_set, if_pos rfl, isSafe_eq remarks alike]

theorem Pass.run_keeps_marks {pass : Pass} (standard : pass ∈ Optimizer.standard.passes) (remarks : arena.Remarks later)
    (marked : arena.Marks r later id) : arena.Marks r (pass.run r visit later) id := by
  rw [Optimizer.passes_standard] at standard
  cases entry : visit.isEntry with
  | false =>
      rw [Pass.run, entry]
      rcases List.mem_pair.mp standard with rfl | rfl
      · exact marked.annotate visit.node fun _ => rfl
      · exact marked.annotate visit.node fun _ => rfl
  | true =>
      rcases List.mem_pair.mp standard with rfl | rfl
      · rw [Pass.run, entry]
        exact marked.annotate visit.node (LoopContext.enter_safe r later visit)
      · by_cases same : visit.node = id
        · exact same ▸ OutputSafety.run_marks remarks entry
        · intro node tag children there kind prints found here
          rw [Pass.run, Arena.get?_annotate, if_neg same] at here
          exact marked node tag children there kind prints found here

/-- However many calls of the default passes are made, marks change only, and every entered node that prints
has its mark in the end. -/
theorem foldl_calls_remarks {calls : List (Pass × Visit)} (standard : ∀ call ∈ calls, call.1 ∈ Optimizer.standard.passes)
    (remarks : arena.Remarks later) :
    arena.Remarks (calls.foldl (fun arena call => call.1.run r call.2 arena) later) ∧
      (∀ id, arena.Marks r later id → arena.Marks r (calls.foldl (fun arena call => call.1.run r call.2 arena) later) id) ∧
      ∀ visit, (OutputSafety.pass, visit) ∈ calls → visit.isEntry = true →
        arena.Marks r (calls.foldl (fun arena call => call.1.run r call.2 arena) later) visit.node := by
  induction calls generalizing later with
  | nil => exact ⟨remarks, fun _ marked => marked, nofun⟩
  | cons call calls ih =>
      obtain ⟨first, rest⟩ := List.forall_mem_cons.mp standard
      rw [List.foldl_cons]
      obtain ⟨onward, kept, marks⟩ := ih rest (remarks.trans (Pass.run_remarks first r call.2 later))
      refine ⟨onward, fun id marked => kept id (Pass.run_keeps_marks first remarks marked), ?_⟩
      intro visit member entry
      rcases List.mem_cons.mp member with rfl | further
      · exact kept visit.node (OutputSafety.run_marks remarks entry)
      · exact marks visit further entry

/-- Default passes only, of which one notes what is safe. -/
structure Optimizer.IsDefault (optimizer : Optimizer) : Prop where
  known : ∀ pass ∈ optimizer.passes, pass ∈ Optimizer.standard.passes
  safety : OutputSafety.pass ∈ optimizer.passes

theorem Optimizer.isDefault_standard : Optimizer.standard.IsDefault := by
  refine ⟨fun _ member => member, ?_⟩
  rw [Optimizer.passes_standard]
  exact List.mem_pair.mpr (.inr rfl)

theorem Optimizer.mem_add {optimizer : Optimizer} {pass other : Pass} :
    other ∈ (optimizer.add pass).passes ↔ other = pass ∨ other ∈ optimizer.passes := by
  let runsBefore (earlier : Pass) : Bool := decide (earlier.priority ≤ pass.priority)
  have split : other ∈ optimizer.passes ↔
      other ∈ optimizer.passes.takeWhile runsBefore ∨ other ∈ optimizer.passes.dropWhile runsBefore := by
    rw [← List.mem_append, List.takeWhile_append_dropWhile]
  rw [split, Optimizer.add, List.mem_append, List.mem_cons]
  exact or_left_comm

theorem Optimizer.IsDefault.add {optimizer : Optimizer} (default : optimizer.IsDefault) {pass : Pass}
    (known : pass ∈ Optimizer.standard.passes) : (optimizer.add pass).IsDefault := by
  refine ⟨fun other member => ?_, Optimizer.mem_add.mpr (.inr default.safety)⟩
  rcases Optimizer.mem_add.mp member with rfl | earlier
  · exact known
  · exact default.known other earlier

theorem Optimizer.IsDefault.remarks {optimizer : Optimizer} (default : optimizer.IsDefault) (r : Registries) (arena : Arena) :
    arena.Remarks (optimizer.run r arena) ∧
      ∀ visit ∈ arena.walk, visit.isEntry = true → arena.Marks r (optimizer.run r arena) visit.node := by
  have known : ∀ call ∈ optimizer.calls arena, call.1 ∈ Optimizer.standard.passes := by
    intro call member
    obtain ⟨visit, -, called⟩ := List.mem_flatMap.mp member
    obtain ⟨pass, among, rfl⟩ := List.mem_map.mp called
    exact default.known pass among
  obtain ⟨remarks, -, marks⟩ := foldl_calls_remarks (r := r) known (.refl arena)
  refine ⟨remarks, fun visit walked => marks visit ?_⟩
  exact List.mem_flatMap.mpr ⟨visit, walked, List.mem_map.mpr ⟨OutputSafety.pass, default.safety, rfl⟩⟩

end

/-- A direct call of a safe function. -/
def Tree.isSafeCall (r : Registries) : Tree → Bool
  | .call (.resolved id) none _ _ _ => (r.functions.get? id).any (·.isSafe)
  | _ => false

/-- The later tree differs in the marks of tags at most, and tags that print say whether they write their
values as they are. -/
inductive Remarked (r : Registries) : Tree → Tree → Prop
  | root {children children' : List Tree} {line : Nat} {notes : Annotations} :
      List.Forall₂ (Remarked r) children children' → Remarked r (.root children line notes) (.root children' line notes)
  | block {children children' : List Tree} {line : Nat} {notes : Annotations} :
      List.Forall₂ (Remarked r) children children' →
      Remarked r (.block children line notes) (.block children' line notes)
  | tag {id line : Nat} {children children' : List Tree} {notes notes' : Annotations} :
      List.Forall₂ (Remarked r) children children' → notes.Alike notes' →
      ((r.tags.get? id).any (·.keyword == printKeyword) = true →
        notes'.flag "safe" false = (notes.flag "text" false || children.head?.any (·.isSafeCall r))) →
      Remarked r (.tag id children line notes) (.tag id children' line notes')
  | operator {id line : Nat} {left left' middle middle' right right' : Option Tree} {notes : Annotations} :
      Option.Rel (Remarked r) left left' → Option.Rel (Remarked r) middle middle' →
      Option.Rel (Remarked r) right right' →
      Remarked r (.operator id left middle right line notes) (.operator id left' middle' right' line notes)
  | call {callee : Callee} {receiver receiver' : Option Tree} {args args' : List Tree} {line : Nat}
      {notes : Annotations} :
      Option.Rel (Remarked r) receiver receiver' → List.Forall₂ (Remarked r) args args' →
      Remarked r (.call callee receiver args line notes) (.call callee receiver' args' line notes)
  | data {value : Scalar} {line : Nat} {notes : Annotations} : Remarked r (.data value line notes) (.data value line notes)
  | list {items items' : List Tree} {line : Nat} {notes : Annotations} :
      List.Forall₂ (Remarked r) items items' → Remarked r (.list items line notes) (.list items' line notes)
  | name {name : String} {line : Nat} {notes : Annotations} :
      Remarked r (.variable name line notes) (.variable name line notes)
  | identifier {name : String} {line : Nat} {notes : Annotations} :
      Remarked r (.identifier name line notes) (.identifier name line notes)
  | index {base base' key key' : Tree} {line : Nat} {notes : Annotations} :
      Remarked r base base' → Remarked r key key' → Remarked r (.index base key line notes) (.index base' key' line notes)
  | missing {id : NodeId} : Remarked r (.missing id) (.missing id)

section

variable {r : Registries} {arena later : Arena}

theorem Remarked.exists_tag {id line : Nat} {first : Tree} {rest : List Tree} {notes : Annotations} {annotated : Tree}
    (same : Remarked r (.tag id (first :: rest) line notes) annotated) :
    ∃ first' rest' notes', annotated = .tag id (first' :: rest') line notes' ∧ Remarked r first first' ∧
      List.Forall₂ (Remarked r) rest rest' ∧ notes.Alike notes' ∧
      ((r.tags.get? id).any (·.keyword == printKeyword) = true →
        notes'.flag "safe" false = (notes.flag "text" false || first.isSafeCall r)) := by
  cases same with
  | tag children alike safe =>
      cases children with
      | cons first rest => exact ⟨_, _, _, rfl, first, rest, alike, safe⟩

theorem Tree.isSafeCall_treeAt (arena : Arena) (id : NodeId) (depth : Nat) :
    (arena.treeAt (depth + 1) id).isSafeCall r = (arena.get? id).any (OutputSafety.isSafeCall r) := by
  cases there : arena.get? id with
  | none =>
      rw [Arena.treeAt, there]
      rfl
  | some node =>
      rw [Arena.treeAt_succ there, Option.any_some]
      obtain ⟨kind, line, notes⟩ := node
      cases kind with
      | call callee receiver args => cases callee <;> cases receiver <;> rfl
      | _ => rfl

theorem forall₂_remarked {children : List NodeId} {f g : NodeId → Tree} (each : ∀ id ∈ children, Remarked r (f id) (g id)) :
    List.Forall₂ (Remarked r) (children.map f) (children.map g) := by
  rw [List.forall₂_map_left_iff, List.forall₂_map_right_iff, List.forall₂_same]
  exact each

theorem rel_remarked {child : Option NodeId} {f g : NodeId → Tree} (each : ∀ id ∈ child.toList, Remarked r (f id) (g id)) :
    Option.Rel (Remarked r) (child.map f) (child.map g) := by
  cases child with
  | none => exact .none
  | some id => exact .some (each id (List.mem_singleton.mpr rfl))

theorem Remarked.toTree {node : Node} {f g : NodeId → Tree} {notes : Annotations}
    (below : ∀ child ∈ node.kind.children, Remarked r (f child) (g child)) (alike : node.notes.Alike notes)
    (kept : node.kind.isTag = false → notes = node.notes)
    (safe : ∀ tag children, node.kind = .tag tag children → (r.tags.get? tag).any (·.keyword == printKeyword) = true →
      notes.flag "safe" false = (node.notes.flag "text" false || (children.head?.map f).any (·.isSafeCall r))) :
    Remarked r (node.kind.toTree f node.line node.notes) (node.kind.toTree g node.line notes) := by
  obtain ⟨kind, line, before⟩ := node
  cases kind with
  | tag id children =>
      refine .tag (forall₂_remarked below) alike fun prints => ?_
      rw [List.head?_map]
      exact safe id children rfl prints
  | root children =>
      cases kept rfl
      exact .root (forall₂_remarked below)
  | block children =>
      cases kept rfl
      exact .block (forall₂_remarked below)
  | operator id left middle right =>
      cases kept rfl
      simp only [NodeKind.children, List.forall_mem_append] at below
      exact .operator (rel_remarked below.1.1) (rel_remarked below.1.2) (rel_remarked below.2)
  | call callee receiver args =>
      cases kept rfl
      obtain ⟨receivers, args⟩ := List.forall_mem_append.mp below
      exact .call (rel_remarked receivers) (forall₂_remarked args)
  | data value =>
      cases kept rfl
      exact .data
  | list items =>
      cases kept rfl
      exact .list (forall₂_remarked below)
  | «variable» name =>
      cases kept rfl
      exact .name
  | identifier name =>
      cases kept rfl
      exact .identifier
  | index base key =>
      cases kept rfl
      exact .index (below base List.mem_cons_self) (below key (List.mem_cons_of_mem _ List.mem_cons_self))

theorem Arena.walkFrom_succ_of_mem {visit : Visit} {depth : Nat} {ancestors : List NodeId} {id : NodeId}
    (walked : visit ∈ arena.walkFrom depth ancestors id) : visit ∈ arena.walkFrom (depth + 1) ancestors id := by
  induction depth generalizing id ancestors with
  | zero => cases walked
  | succ depth ih =>
      rw [walkFrom, List.mem_cons, List.mem_append, List.mem_flatMap] at walked ⊢
      exact walked.imp_right (Or.imp_left fun ⟨child, member, inside⟩ => ⟨child, member, ih inside⟩)

/-- A walk from the root reaches at least as many levels as there are nodes. -/
theorem Arena.mem_walk {visit : Visit} {id : NodeId} (root : arena.root = some id) (walked : visit ∈ arena.walkFrom arena.size [] id) :
    visit ∈ arena.walk := by
  rw [walk, root]
  exact walkFrom_succ_of_mem walked

/-- Where children stand in front of their owners and all nodes of a walk have their marks, the tree below
a node differs in marks only. -/
theorem remarked_treeAt (lower : ∀ {id node}, arena.get? id = some node → ∀ child ∈ node.kind.children, child.index < id.index)
    (remarks : arena.Remarks later) {depth : Nat} {id : NodeId} (deep : id.index < depth) (ancestors : List NodeId)
    (marked : ∀ visit ∈ arena.walkFrom depth ancestors id, visit.isEntry = true → arena.Marks r later visit.node) :
    Remarked r (arena.treeAt depth id) (later.treeAt depth id) := by
  induction depth generalizing id ancestors with
  | zero => exact absurd deep (Nat.not_lt_zero _)
  | succ depth ih =>
      cases there : arena.get? id with
      | none =>
          rw [Arena.treeAt, Arena.treeAt, there, remarks.none there]
          exact .missing
      | some node =>
          obtain ⟨notes, here, alike, kept⟩ := remarks.node there
          rw [Arena.treeAt_succ there, Arena.treeAt_succ here]
          rw [Arena.walkFrom, Arena.children, there] at marked
          obtain ⟨entered, rest⟩ := List.forall_mem_cons.mp marked
          obtain ⟨inside, -⟩ := List.forall_mem_append.mp rest
          refine Remarked.toTree ?_ alike kept ?_
          · intro child member
            have := lower there child member
            refine ih (by omega) (id :: ancestors) fun visit walked => inside visit ?_
            exact List.mem_flatMap.mpr ⟨child, member, walked⟩
          · intro tag children kind prints
            have mark := entered rfl node tag children there kind prints _ here
            rw [Annotations.flag, mark]
            dsimp only
            rw [OutputSafety.isSafe]
            congr 1
            cases first : children.head? with
            | none => rfl
            | some child =>
                have := lower there child (by rw [kind]; exact List.mem_of_head? first)
                obtain ⟨inner, rfl⟩ : ∃ inner, depth = inner + 1 := ⟨depth - 1, by omega⟩
                rw [Option.map_some, Option.any_some, Tree.isSafeCall_treeAt]
                rfl

/-- The tree that is compiled is the tree that was read, up to the marks of its tags. -/
theorem Optimizer.IsDefault.remarked {optimizer : Optimizer} (default : optimizer.IsDefault) {tree : Tree}
    (sound : tree.Sound r) :
    ∃ annotated, (optimizer.run r (Arena.ofTree tree)).toTree? = some annotated ∧ Remarked r tree annotated := by
  obtain ⟨⟨last, size, root⟩, lower, -, -⟩ := Arena.isTree_ofTree sound
  obtain ⟨remarks, marked⟩ := default.remarks r (Arena.ofTree tree)
  have same := Arena.toTree?_ofTree sound
  rw [Arena.toTree?, root, Option.map_some] at same
  refine ⟨_, ?_, Option.some.inj same ▸ remarked_treeAt lower remarks ?_ [] fun visit walked =>
    marked visit (Arena.mem_walk root walked)⟩
  · rw [Arena.toTree?, remarks.root, root, remarks.size, Option.map_some]
  · rw [size]
    exact Nat.lt_succ_self last

end

namespace Parse

variable {r : Registries}

theorem eq_of_forall₂_remarked {trees annotated : List Tree}
    (each : ∀ tree ∈ trees, ∀ later, Remarked r tree later → later = tree)
    (remarked : List.Forall₂ (Remarked r) trees annotated) : annotated = trees := by
  induction remarked with
  | nil => rfl
  | cons first _ ih =>
      obtain ⟨here, rest⟩ := List.forall_mem_cons.mp each
      rw [here _ first, ih rest]

theorem eq_of_rel_remarked {tree annotated : Option Tree}
    (each : ∀ found ∈ tree, ∀ later, Remarked r found later → later = found)
    (remarked : Option.Rel (Remarked r) tree annotated) : annotated = tree := by
  cases remarked with
  | none => rfl
  | some first => rw [each _ rfl _ first]

theorem IsExpression.eq_of_remarked {tree : Tree} (shape : IsExpression r tree) :
    ∀ annotated, Remarked r tree annotated → annotated = tree := by
  induction shape with
  | operator _ _ _ _ _ _ _ lefts middles rights =>
      rintro annotated ⟨⟩
      rename_i left middle right
      rw [eq_of_rel_remarked lefts left, eq_of_rel_remarked middles middle, eq_of_rel_remarked rights right]
  | call _ _ children =>
      rintro annotated ⟨⟩
      rename_i receiver args
      cases receiver
      rw [eq_of_forall₂_remarked children args]
  | named _ _ receivers children =>
      rintro annotated ⟨⟩
      rename_i receiver args
      rw [eq_of_rel_remarked receivers receiver, eq_of_forall₂_remarked children args]
  | data =>
      rintro annotated ⟨⟩
      rfl
  | list _ children =>
      rintro annotated ⟨⟩
      rename_i items
      rw [eq_of_forall₂_remarked children items]
  | name =>
      rintro annotated ⟨⟩
      rfl
  | index _ _ bases keys =>
      rintro annotated ⟨⟩
      rename_i base key
      rw [bases _ base, keys _ key]
  | field _ bases =>
      rintro annotated ⟨⟩
      rename_i base key
      cases key
      rw [bases _ base]

theorem IsExpression.remarked {tree annotated : Tree} (shape : IsExpression r tree) (same : Remarked r tree annotated) :
    IsExpression r annotated := by
  rw [shape.eq_of_remarked annotated same]
  exact shape

mutual

theorem IsStatement.remarked {tree annotated : Tree} :
    IsStatement r tree → Remarked r tree annotated → IsStatement r annotated
  | .text numbered isText, same => by
      obtain ⟨_, _, notes, rfl, ⟨⟩, none, alike, -⟩ := same.exists_tag
      cases none
      exact .text numbered ((alike.flag (by decide) _).trans isText)
  | .print numbered isOutput value, same => by
      obtain ⟨_, _, notes, rfl, first, none, alike, -⟩ := same.exists_tag
      cases none
      exact .print numbered ((alike.flag (by decide) _).trans isOutput) (value.remarked first)
  | .inclusion numbered value, same => by
      obtain ⟨_, _, notes, rfl, first, none, -⟩ := same.exists_tag
      cases none
      exact .inclusion numbered (value.remarked first)
  | .assignment numbered named value, same => by
      obtain ⟨_, _, notes, rfl, first, none, alike, -⟩ := same.exists_tag
      cases none
      exact .assignment numbered ((alike.text? (by decide)).trans named) (value.remarked first)
  | .conditional numbered condition content later, same => by
      obtain ⟨_, _, notes, rfl, first, others, alike, -⟩ := same.exists_tag
      obtain ⟨_, _, second, rest, rfl⟩ := List.forall₂_cons_left_iff.mp others
      refine .conditional numbered (condition.remarked first) (content.remarked second) ?_
      rw [alike.flag (by decide)]
      exact later.remarked rest
  | .loop numbered iterable content later value key, same => by
      obtain ⟨_, _, notes, rfl, first, others, alike, -⟩ := same.exists_tag
      obtain ⟨_, _, second, rest, rfl⟩ := List.forall₂_cons_left_iff.mp others
      exact .loop numbered (iterable.remarked first) (content.remarked second) (later.remarked rest)
        ((alike.text? (by decide)).trans value) ((alike.text? (by decide)).trans key)
  | .switch numbered subject later, same => by
      obtain ⟨_, _, notes, rfl, first, rest, alike, -⟩ := same.exists_tag
      refine .switch numbered (subject.remarked first) ?_
      rw [alike.flag (by decide)]
      exact later.remarked rest
  | .nested numbered named content, same => by
      obtain ⟨_, _, notes, rfl, first, none, alike, -⟩ := same.exists_tag
      cases none
      exact .nested numbered ((alike.text? (by decide)).trans named) (content.remarked first)

theorem IsBody.remarked {tree annotated : Tree} : IsBody r tree → Remarked r tree annotated → IsBody r annotated
  | .block statements, .block children => by
      refine .block fun later member => ?_
      obtain ⟨tree, inside, same⟩ := exists_of_mem_forall₂ children member
      exact (statements tree inside).remarked same

theorem IsBranches.remarked {tests hasLast : Bool} {trees annotated : List Tree} :
    IsBranches r tests trees hasLast → List.Forall₂ (Remarked r) trees annotated → IsBranches r tests annotated hasLast
  | .ending, .nil => .ending
  | .last content, .cons first .nil => .last (content.remarked first)
  | .test value content later, .cons first (.cons second rest) =>
      .test (value.remarked first) (content.remarked second) (later.remarked rest)

end

theorem IsTemplate.remarked {tree annotated : Tree} (shape : IsTemplate r tree) (same : Remarked r tree annotated) :
    IsTemplate r annotated := by
  obtain ⟨statements⟩ := shape
  obtain ⟨children⟩ := same
  refine .root fun later member => ?_
  obtain ⟨tree, inside, same⟩ := exists_of_mem_forall₂ children member
  exact (statements tree inside).remarked same

/-- What has to be shown of each core tag for something to hold of all trees beside their annotated forms:
`P` for statements and bodies, `Q` for chains of branches. -/
structure RemarkedCases (r : Registries) (P : Tree → Tree → Prop) (Q : List Tree → List Tree → Prop) : Prop where
  text {id line inner text notes notes' innerNotes} : r.tags.get? id = some Core.printTag →
    notes.flag "text" false = true → notes.Alike notes' →
    P (.tag id [.data (.string text) inner innerNotes] line notes) (.tag id [.data (.string text) inner innerNotes] line notes')
  print {id line value notes notes'} : r.tags.get? id = some Core.printTag → notes.flag "text" false = false →
    IsExpression r value → notes.Alike notes' → notes'.flag "safe" false = value.isSafeCall r →
    P (.tag id [value] line notes) (.tag id [value] line notes')
  inclusion {id line value notes notes'} : r.tags.get? id = some Core.includeTag → IsExpression r value →
    P (.tag id [value] line notes) (.tag id [value] line notes')
  assignment {id line name value notes notes'} : r.tags.get? id = some Core.setTag → notes.text? "name" = some name →
    IsExpression r value → notes.Alike notes' → P (.tag id [value] line notes) (.tag id [value] line notes')
  conditional {id line children children' notes notes'} : r.tags.get? id = some Core.ifTag → Q children children' →
    P (.tag id children line notes) (.tag id children' line notes')
  switch {id line subject children children' notes notes'} : r.tags.get? id = some Core.switchTag →
    IsExpression r subject → Q children children' →
    P (.tag id (subject :: children) line notes) (.tag id (subject :: children') line notes')
  loop {id line iterable content content' notes notes'} : r.tags.get? id = some Core.forTag → IsExpression r iterable →
    notes.Alike notes' → P content content' →
    P (.tag id [iterable, content] line notes) (.tag id [iterable, content'] line notes')
  loopElse {id line iterable content content' other other' notes notes'} : r.tags.get? id = some Core.forTag →
    IsExpression r iterable → notes.Alike notes' → P content content' → P other other' →
    P (.tag id [iterable, content, other] line notes) (.tag id [iterable, content', other'] line notes')
  nested {id line name content content' notes notes'} : r.tags.get? id = some Core.templateTag →
    notes.text? "name" = some name → notes.Alike notes' → P content content' →
    P (.tag id [content] line notes) (.tag id [content'] line notes')
  block {line children children' notes notes'} : List.Forall₂ P children children' →
    P (.block children line notes) (.block children' line notes')
  done : Q [] []
  otherwise {content content'} : P content content' → Q [content] [content']
  orElse {value content content' later later'} : IsExpression r value → P content content' → Q later later' →
    Q (value :: content :: later) (value :: content' :: later')

namespace RemarkedCases

variable {P : Tree → Tree → Prop} {Q : List Tree → List Tree → Prop}

/-- What holds of each tree beside all its annotated forms holds of lists of them. -/
theorem forall₂_of_remarked {trees annotated : List Tree}
    (each : ∀ tree ∈ trees, ∀ later, Remarked r tree later → P tree later)
    (same : List.Forall₂ (Remarked r) trees annotated) : List.Forall₂ P trees annotated :=
  ((List.forall₂_and_left _ _).mpr ⟨each, same⟩).imp fun _ _ both => both.1 _ both.2

mutual

theorem statement (each : RemarkedCases r P Q) {tree annotated : Tree} :
    IsStatement r tree → Remarked r tree annotated → P tree annotated
  | .text numbered isText, same => by
      obtain ⟨_, _, notes, rfl, ⟨⟩, none, alike, -⟩ := same.exists_tag
      cases none
      exact each.text numbered isText alike
  | .print numbered isOutput value, same => by
      obtain ⟨_, _, notes, rfl, first, none, alike, safe⟩ := same.exists_tag
      cases none
      cases value.eq_of_remarked _ first
      rw [numbered] at safe
      have safe := safe rfl
      rw [isOutput, Bool.false_or] at safe
      exact each.print numbered isOutput value alike safe
  | .inclusion numbered value, same => by
      obtain ⟨_, _, notes, rfl, first, none, -⟩ := same.exists_tag
      cases none
      cases value.eq_of_remarked _ first
      exact each.inclusion numbered value
  | .assignment numbered named value, same => by
      obtain ⟨_, _, notes, rfl, first, none, alike, -⟩ := same.exists_tag
      cases none
      cases value.eq_of_remarked _ first
      exact each.assignment numbered named value alike
  | .conditional numbered condition content later, same => by
      obtain ⟨_, _, notes, rfl, first, others, -⟩ := same.exists_tag
      obtain ⟨_, _, second, rest, rfl⟩ := List.forall₂_cons_left_iff.mp others
      cases condition.eq_of_remarked _ first
      exact each.conditional numbered (each.orElse condition (body each content second) (branches each later rest))
  | .switch numbered subject later, same => by
      obtain ⟨_, _, notes, rfl, first, rest, -⟩ := same.exists_tag
      cases subject.eq_of_remarked _ first
      exact each.switch numbered subject (branches each later rest)
  | .loop numbered iterable content .ending _ _, same => by
      obtain ⟨_, _, notes, rfl, first, others, alike, -⟩ := same.exists_tag
      obtain ⟨_, _, second, none, rfl⟩ := List.forall₂_cons_left_iff.mp others
      cases none
      cases iterable.eq_of_remarked _ first
      exact each.loop numbered iterable alike (body each content second)
  | .loop numbered iterable content (.last other) _ _, same => by
      obtain ⟨_, _, notes, rfl, first, others, alike, -⟩ := same.exists_tag
      obtain ⟨_, _, second, rest, rfl⟩ := List.forall₂_cons_left_iff.mp others
      obtain ⟨_, _, third, none, rfl⟩ := List.forall₂_cons_left_iff.mp rest
      cases none
      cases iterable.eq_of_remarked _ first
      exact each.loopElse numbered iterable alike (body each content second) (body each other third)
  | .nested numbered named content, same => by
      obtain ⟨_, _, notes, rfl, first, none, alike, -⟩ := same.exists_tag
      cases none
      exact each.nested numbered named alike (body each content first)

theorem body (each : RemarkedCases r P Q) {tree annotated : Tree} : IsBody r tree → Remarked r tree annotated → P tree annotated
  | .block shapes, .block children =>
      each.block (forall₂_of_remarked (fun tree member _ same => statement each (shapes tree member) same) children)

theorem branches (each : RemarkedCases r P Q) {trees annotated : List Tree} {tests hasLast : Bool} :
    IsBranches r tests trees hasLast → List.Forall₂ (Remarked r) trees annotated → Q trees annotated
  | .ending, .nil => each.done
  | .last content, .cons first .nil => each.otherwise (body each content first)
  | .test value content later, .cons first (.cons second rest) => by
      cases value.eq_of_remarked _ first
      exact each.orElse value (body each content second) (branches each later rest)

end

theorem statements (each : RemarkedCases r P Q) {trees annotated : List Tree} (shapes : ∀ tree ∈ trees, IsStatement r tree)
    (same : List.Forall₂ (Remarked r) trees annotated) : List.Forall₂ P trees annotated :=
  forall₂_of_remarked (fun tree member _ same => each.statement (shapes tree member) same) same

end RemarkedCases

end Parse

end Templating
