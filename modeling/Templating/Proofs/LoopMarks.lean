import Templating.Proofs.Annotating

/-! # Loops that lie in loops

The walk reaches each node of a tree once, below the nodes that stand above it. What a pass notes on a loop from the
nodes above it is therefore what the tree says: a loop in the body of another one, with no template begun in between,
is marked as one that may share the scope of the loop around it.
-/

namespace Templating

namespace Arena

/-- The nodes above a node, the nearest first and the root last. -/
inductive Lineage (arena : Arena) : NodeId → List NodeId → Prop
  | root {id : NodeId} : arena.root = some id → Lineage arena id []
  | child {id parent : NodeId} {ancestors : List NodeId} :
      id ∈ arena.children parent → Lineage arena parent ancestors → Lineage arena id (parent :: ancestors)

section

variable {r : Registries} {arena later : Arena} {id parent : NodeId} {ancestors others : List NodeId}

theorem exists_of_mem_children (owns : id ∈ arena.children parent) :
    ∃ node, arena.get? parent = some node ∧ id ∈ node.kind.children := by
  rw [children] at owns
  split at owns
  · rename_i node there
    exact ⟨node, there, owns⟩
  · cases owns

theorem IsTree.child_lt (isTree : arena.IsTree r) (owns : id ∈ arena.children parent) :
    id.index < parent.index ∧ parent.index < arena.size := by
  obtain ⟨node, there, member⟩ := exists_of_mem_children owns
  exact ⟨isTree.children_lt there id member, (Array.getElem?_eq_some_iff.mp there).1⟩

theorem IsTree.root_not_child (isTree : arena.IsTree r) (root : arena.root = some id) : id ∉ arena.children parent := by
  intro owns
  obtain ⟨last, size, isLast⟩ := isTree.root
  rw [root] at isLast
  cases isLast
  obtain ⟨lower, inside⟩ := isTree.child_lt owns
  dsimp only at lower
  omega

theorem IsTree.parent_eq (isTree : arena.IsTree r) {other : NodeId} (owns : id ∈ arena.children parent)
    (ownsToo : id ∈ arena.children other) : parent = other := by
  have := isTree.child_lt owns
  have there : arena.get? id = some _ := Array.getElem?_eq_getElem (Nat.lt_trans this.1 this.2)
  obtain ⟨owner, -, only⟩ := isTree.parent there fun root => isTree.root_not_child root owns
  exact (only parent owns).trans (only other ownsToo).symm

theorem Lineage.eq (isTree : arena.IsTree r) (one : arena.Lineage id ancestors) (other : arena.Lineage id others) :
    ancestors = others := by
  induction one generalizing others with
  | root isRoot =>
      cases other with
      | root => rfl
      | child owns => exact absurd owns (isTree.root_not_child isRoot)
  | child owns _ ih =>
      cases other with
      | root isRoot => exact absurd owns (isTree.root_not_child isRoot)
      | child ownsToo rest =>
          cases isTree.parent_eq owns ownsToo
          rw [ih rest]

theorem Lineage.walkFrom {depth : Nat} {visit : Visit} (lineage : arena.Lineage id ancestors)
    (walked : visit ∈ arena.walkFrom depth ancestors id) : arena.Lineage visit.node visit.ancestors := by
  induction depth generalizing id ancestors with
  | zero => cases walked
  | succ depth ih =>
      rw [Arena.walkFrom, List.mem_cons, List.mem_append, List.mem_singleton] at walked
      rcases walked with rfl | inside | rfl
      · exact lineage
      · obtain ⟨child, owns, walked⟩ := List.mem_flatMap.mp inside
        exact ih (.child owns lineage) walked
      · exact lineage

theorem lineage_of_mem_walk {visit : Visit} (walked : visit ∈ arena.walk) : arena.Lineage visit.node visit.ancestors := by
  rw [walk] at walked
  split at walked
  · rename_i root isRoot
    exact (Lineage.root isRoot).walkFrom walked
  · cases walked

theorem Remarks.kind (remarks : arena.Remarks later) (id : NodeId) :
    (later.get? id).map Node.kind = (arena.get? id).map Node.kind := by
  cases there : arena.get? id with
  | none => rw [remarks.none there]
  | some node =>
      obtain ⟨notes, here, -, -⟩ := remarks.node there
      rw [here]
      rfl

end

end Arena

section

variable {r : Registries} {arena later : Arena} {visit other : Visit}

theorem LoopContext.isInside_eq (remarks : arena.Remarks later) (tag : Nat) (ancestors : List NodeId) :
    isInside r later tag ancestors = isInside r arena tag ancestors := by
  induction ancestors with
  | nil => rfl
  | cons ancestor outer ih =>
      rw [isInside, isInside, remarks.kind]
      split
      · rw [ih]
      · exact ih

/-- If a node repeats its body, the later arena has a mark on it that says whether it lies in a node of the same tag. -/
def Arena.MarksLoop (r : Registries) (arena later : Arena) (visit : Visit) : Prop :=
  ∀ node tag children, arena.get? visit.node = some node → node.kind = .tag tag children →
    (r.tags.get? tag).any (·.isRepeating) = true →
    ∀ found, later.get? visit.node = some found →
      found.notes.get? "reuse_context" = some (.bool (LoopContext.isInside r arena tag visit.ancestors))

theorem Arena.MarksLoop.annotate (marked : arena.MarksLoop r later visit) (id : NodeId) {change : Annotations → Annotations}
    (kept : ∀ notes, (change notes).get? "reuse_context" = notes.get? "reuse_context") :
    arena.MarksLoop r (later.annotate id change) visit := by
  intro node tag children there kind repeats found here
  rw [get?_annotate] at here
  split at here
  · obtain ⟨before, stands, rfl⟩ := Option.map_eq_some_iff.mp here
    exact (kept before.notes).trans (marked node tag children there kind repeats before stands)
  · exact marked node tag children there kind repeats found here

theorem OutputSafety.enter_reuse (r : Registries) (arena : Arena) (visit : Visit) (notes : Annotations) :
    (enter r arena visit notes).get? "reuse_context" = notes.get? "reuse_context" := by
  rw [enter]
  split
  · split
    · rw [Annotations.get?_set, if_neg (by decide)]
    · rfl
  · rfl

theorem LoopContext.run_marks (remarks : arena.Remarks later) (entry : visit.isEntry = true) :
    arena.MarksLoop r (LoopContext.pass.run r visit later) visit := by
  intro node tag children there kind repeats found here
  obtain ⟨notes, stands, -, -⟩ := remarks.node there
  rw [Pass.run, Arena.get?_annotate, if_pos rfl, stands, entry] at here
  cases here
  show (LoopContext.enter r later visit notes).get? "reuse_context" = _
  rw [enter, stands, Option.map_some]
  simp only [kind, repeats, if_true]
  rw [Annotations.get?_set, if_pos rfl, isInside_eq remarks]

theorem Pass.run_keeps_loop_mark {pass : Pass} (standard : pass ∈ Optimizer.standard.passes) (remarks : arena.Remarks later)
    (alike : other.node = visit.node → other.ancestors = visit.ancestors) (marked : arena.MarksLoop r later visit) :
    arena.MarksLoop r (pass.run r other later) visit := by
  rw [Optimizer.passes_standard] at standard
  cases entry : other.isEntry with
  | false =>
      rw [Pass.run, entry]
      rcases List.mem_pair.mp standard with rfl | rfl
      · exact marked.annotate other.node fun _ => rfl
      · exact marked.annotate other.node fun _ => rfl
  | true =>
      rcases List.mem_pair.mp standard with rfl | rfl
      · by_cases same : other.node = visit.node
        · have again := LoopContext.run_marks (r := r) remarks entry
          rw [Arena.MarksLoop, same, alike same] at again
          exact again
        · intro node tag children there kind repeats found here
          rw [Pass.run, Arena.get?_annotate, if_neg same] at here
          exact marked node tag children there kind repeats found here
      · rw [Pass.run, entry]
        exact marked.annotate other.node (OutputSafety.enter_reuse r later other)

/-- Calls of the default passes, by which nodes are visited in one way only, leave their marks on all loops that are entered. -/
theorem foldl_calls_mark_loops {calls : List (Pass × Visit)} (standard : ∀ call ∈ calls, call.1 ∈ Optimizer.standard.passes)
    (alike : ∀ call ∈ calls, call.2.node = visit.node → call.2.ancestors = visit.ancestors) (remarks : arena.Remarks later) :
    (arena.MarksLoop r later visit ∨ (LoopContext.pass, visit) ∈ calls ∧ visit.isEntry = true) →
      arena.MarksLoop r (calls.foldl (fun arena call => call.1.run r call.2 arena) later) visit := by
  induction calls generalizing later with
  | nil =>
      rintro (marked | ⟨nowhere, -⟩)
      · exact marked
      · cases nowhere
  | cons call calls ih =>
      obtain ⟨first, rest⟩ := List.forall_mem_cons.mp standard
      obtain ⟨alikeFirst, alikeRest⟩ := List.forall_mem_cons.mp alike
      intro reached
      rw [List.foldl_cons]
      refine ih rest alikeRest (remarks.trans (Pass.run_remarks first r call.2 later)) ?_
      rcases reached with marked | ⟨member, entry⟩
      · exact .inl (Pass.run_keeps_loop_mark first remarks alikeFirst marked)
      · rcases List.mem_cons.mp member with rfl | further
        · exact .inl (LoopContext.run_marks remarks entry)
        · exact .inr ⟨further, entry⟩

theorem Optimizer.marksLoop_standard (isTree : arena.IsTree r) (walked : visit ∈ arena.walk) (entry : visit.isEntry = true) :
    arena.MarksLoop r (Optimizer.standard.run r arena) visit := by
  have called : ∀ call ∈ Optimizer.standard.calls arena, call.1 ∈ Optimizer.standard.passes ∧ call.2 ∈ arena.walk := by
    intro call member
    obtain ⟨visit, walked, called⟩ := List.mem_flatMap.mp member
    obtain ⟨pass, among, rfl⟩ := List.mem_map.mp called
    exact ⟨among, walked⟩
  refine foldl_calls_mark_loops (fun call member => (called call member).1) ?_ (.refl arena) (.inr ⟨?_, entry⟩)
  · intro call member same
    have lineage := Arena.lineage_of_mem_walk (called call member).2
    rw [same] at lineage
    exact lineage.eq isTree (Arena.lineage_of_mem_walk walked)
  · refine List.mem_flatMap.mpr ⟨visit, walked, List.mem_map.mpr ⟨LoopContext.pass, ?_, rfl⟩⟩
    rw [Optimizer.passes_standard]
    exact List.mem_cons_self

end

mutual

/-- Every loop that lies in the body of a loop of the same template is marked. `inLoop` says so of the node. -/
def Tree.Noted (r : Registries) (inLoop : Bool) : Tree → Prop
  | .root children _ _ => Tree.NotedAll r inLoop children
  | .block children _ _ => Tree.NotedAll r inLoop children
  | .tag id children _ notes =>
    match (r.tags.get? id).map TagDefinition.form, children with
    | some .loop, _ :: content :: rest =>
      (inLoop = true → notes.flag "reuse_context" false = true) ∧ content.Noted r true ∧ Tree.NotedAll r inLoop rest
    | some .nested, children => Tree.NotedAll r false children
    | _, children => Tree.NotedAll r inLoop children
  | _ => True

def Tree.NotedAll (r : Registries) (inLoop : Bool) : List Tree → Prop
  | [] => True
  | tree :: trees => tree.Noted r inLoop ∧ Tree.NotedAll r inLoop trees

end

section

variable {r : Registries} {arena later : Arena} {id : NodeId} {node : Node} {ancestors : List NodeId} {loopTag : Nat}

theorem Tree.notedAll_map {inLoop : Bool} {children : List NodeId} {f : NodeId → Tree}
    (each : ∀ child ∈ children, (f child).Noted r inLoop) : Tree.NotedAll r inLoop (children.map f) := by
  induction children with
  | nil => trivial
  | cons child children ih =>
      obtain ⟨first, rest⟩ := List.forall_mem_cons.mp each
      exact ⟨first, ih rest⟩

theorem LoopContext.isInside_here {children : List NodeId} (there : arena.get? id = some node)
    (kind : node.kind = .tag loopTag children) : isInside r arena loopTag (id :: ancestors) = true := by
  simp [isInside, there, kind]

theorem LoopContext.isInside_outward (there : arena.get? id = some node)
    (stays : ∀ tag children, node.kind = .tag tag children → (r.tags.get? tag).any (·.opensUnit) = false)
    (outside : isInside r arena loopTag ancestors = true) : isInside r arena loopTag (id :: ancestors) = true := by
  rw [isInside, there, Option.map_some]
  split
  · rename_i other children kind
    rw [stays other children (Option.some.inj kind)]
    simp [outside]
  · exact outside

/-- The core tags whose body is a template of its own are those that define nested templates. -/
theorem Core.form_of_opensUnit : ∀ definition ∈ Core.tags, definition.opensUnit = true → definition.form = .nested := by
  decide

theorem Core.isRepeating_of_loop : ∀ definition ∈ Core.tags, definition.form = .loop → definition.isRepeating = true := by
  decide

theorem Tree.noted_tag {tag line : Nat} {children : List NodeId} {notes : Annotations} {f : NodeId → Tree} {inLoop : Bool}
    (loop : (r.tags.get? tag).map TagDefinition.form = some .loop → (inLoop = true → notes.flag "reuse_context" false = true) ∧
      ∀ child ∈ children, (f child).Noted r true ∧ (f child).Noted r inLoop)
    (nested : ∀ child ∈ children, (f child).Noted r false)
    (other : (r.tags.get? tag).map TagDefinition.form ≠ some .nested → ∀ child ∈ children, (f child).Noted r inLoop) :
    (Tree.tag tag (children.map f) line notes).Noted r inLoop := by
  unfold Tree.Noted
  split
  · rename_i form split
    obtain ⟨flag, each⟩ := loop form
    obtain ⟨_, children, rfl, -, split⟩ := List.map_eq_cons_iff.mp split
    obtain ⟨body, children, rfl, rfl, rfl⟩ := List.map_eq_cons_iff.mp split
    obtain ⟨-, content, rest⟩ := List.forall_mem_cons.mp each |>.imp_right List.forall_mem_cons.mp
    exact ⟨flag, content.1, notedAll_map fun child member => (rest child member).2⟩
  · exact notedAll_map nested
  · rename_i notNested _
    exact notedAll_map (other notNested)

theorem noted_treeAt (core : r.tags.IsCore)
    (only : ∀ tag, (r.tags.get? tag).map TagDefinition.form = some .loop → tag = loopTag) (remarks : arena.Remarks later)
    {depth : Nat} {inLoop : Bool}
    (marked : ∀ visit ∈ arena.walkFrom depth ancestors id, visit.isEntry = true → arena.MarksLoop r later visit)
    (inside : inLoop = true → LoopContext.isInside r arena loopTag ancestors = true) :
    (later.treeAt depth id).Noted r inLoop := by
  induction depth generalizing id ancestors inLoop with
  | zero => trivial
  | succ depth ih =>
      cases there : arena.get? id with
      | none =>
          rw [Arena.treeAt, remarks.none there]
          trivial
      | some node =>
          obtain ⟨notes, here, -, -⟩ := remarks.node there
          rw [Arena.walkFrom, Arena.children, there] at marked
          obtain ⟨entered, rest⟩ := List.forall_mem_cons.mp marked
          obtain ⟨walked, -⟩ := List.forall_mem_append.mp rest
          have below {inner : Bool} (around : inner = true → LoopContext.isInside r arena loopTag (id :: ancestors) = true) :
              ∀ child ∈ node.kind.children, (later.treeAt depth child).Noted r inner := fun child member =>
            ih (fun visit among => walked visit (List.mem_flatMap.mpr ⟨child, member, among⟩)) around
          rw [Arena.treeAt_succ here]
          obtain ⟨kind, line, before⟩ := node
          cases kind with
          | root children =>
              refine Tree.notedAll_map (below fun holds => LoopContext.isInside_outward there ?_ (inside holds))
              rintro _ _ ⟨⟩
          | block children =>
              refine Tree.notedAll_map (below fun holds => LoopContext.isInside_outward there ?_ (inside holds))
              rintro _ _ ⟨⟩
          | tag tag children =>
              refine Tree.noted_tag (fun form => ⟨fun holds => ?_, fun child member => ?_⟩) (below (absurd · Bool.false_ne_true)) fun notNested => ?_
              · obtain rfl := only tag form
                obtain ⟨definition, found, isLoop⟩ := Option.map_eq_some_iff.mp form
                have repeats : (r.tags.get? tag).any (·.isRepeating) = true := by
                  rw [found]
                  exact Core.isRepeating_of_loop definition (core definition (List.mem_of_getElem? found)) isLoop
                rw [Annotations.flag, entered rfl _ _ _ there rfl repeats _ here]
                exact inside holds
              · obtain rfl := only tag form
                have around : LoopContext.isInside r arena tag (id :: ancestors) = true := LoopContext.isInside_here there rfl
                exact ⟨below (fun _ => around) child member, below (fun _ => around) child member⟩
              · refine below fun holds => LoopContext.isInside_outward there ?_ (inside holds)
                rintro tag children ⟨⟩
                cases found : r.tags.get? tag with
                | none => rfl
                | some definition =>
                    have member := core definition (List.mem_of_getElem? found)
                    refine Bool.eq_false_iff.mpr fun opens => notNested ?_
                    rw [found, Option.map_some, Core.form_of_opensUnit definition member opens]
          | _ => trivial

end

theorem Core.loop_number (tag : Nat) (isLoop : (Core.tags[tag]?).map TagDefinition.form = some .loop) : tag = 2 := by
  obtain ⟨definition, there, form⟩ := Option.map_eq_some_iff.mp isLoop
  obtain ⟨inside, rfl⟩ := List.getElem?_eq_some_iff.mp there
  have each : ∀ i : Fin Core.tags.length, (Core.tags.get i).form = .loop → i.val = 2 := by decide
  exact each ⟨tag, inside⟩ form

/-- Where only the core tags are registered, the loop tag has its number among them. -/
theorem TagRegistry.loop_number {r : Registries} {extensions : List Extension}
    (built : Registries.build (Core.extension :: extensions) = .ok r) (functions : ∀ extension ∈ extensions, extension.tags = [])
    {tag : Nat} (isLoop : (r.tags.get? tag).map TagDefinition.form = some .loop) : tag = 2 := by
  have tags : r.tags.tags = Core.tags := by
    rw [Registries.tags_of_build built, List.flatMap_cons, List.flatMap_eq_nil_iff.mpr functions, List.append_nil]
    rfl
  rw [TagRegistry.get?, tags] at isLoop
  exact Core.loop_number tag isLoop

/-- In a tree that was read with the core tags, the default passes mark every loop in the body of another one. -/
theorem Optimizer.noted_standard {r : Registries} {extensions : List Extension} {tree annotated : Tree}
    (built : Registries.build (Core.extension :: extensions) = .ok r) (functions : ∀ extension ∈ extensions, extension.tags = [])
    (sound : tree.Sound r) (restored : (Optimizer.standard.run r (Arena.ofTree tree)).toTree? = some annotated) :
    annotated.Noted r false := by
  have isTree := Arena.isTree_ofTree sound
  obtain ⟨remarks, -⟩ := Optimizer.isDefault_standard.remarks r (Arena.ofTree tree)
  have marked : ∀ visit ∈ (Arena.ofTree tree).walk, visit.isEntry = true →
      (Arena.ofTree tree).MarksLoop r (Optimizer.standard.run r (Arena.ofTree tree)) visit :=
    fun _ walked entry => Optimizer.marksLoop_standard isTree walked entry
  rw [Arena.toTree?, remarks.root, remarks.size] at restored
  obtain ⟨root, isRoot, rfl⟩ := Option.map_eq_some_iff.mp restored
  have only (tag : Nat) (isLoop : (r.tags.get? tag).map TagDefinition.form = some .loop) : tag = 2 :=
    TagRegistry.loop_number built functions isLoop
  exact noted_treeAt (TagRegistry.isCore_of_build built functions) only remarks
    (fun visit walked => marked visit (Arena.mem_walk isRoot walked)) (absurd · Bool.false_ne_true)

end Templating
