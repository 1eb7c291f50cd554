import Templating.Proofs.Allocation
import Templating.Proofs.CoreExtension
import Templating.Proofs.TreeShape
import Mathlib.Data.List.Nodup

/-! # Arenas of trees that were read

A tree is laid out children first. The new nodes then own each other and leave exactly the roots of the
added trees without an owner, so an arena made of one tree has its root last and one owner for every other
node.
-/

namespace Templating

instance : LawfulBEq NodeId where
  eq_of_beq {a b} same := by
    obtain ⟨a⟩ := a
    obtain ⟨b⟩ := b
    exact congrArg NodeId.mk (beq_iff_eq.mp same)
  rfl {a} := beq_self_eq_true a.index

/-- The numbers in a node are of the registries, and an operator has the operands of its arity. -/
def NodeKind.Fits (r : Registries) : NodeKind → Prop
  | .tag id _ => ∃ definition, r.tags.get? id = some definition
  | .operator id left middle right =>
      ∃ definition, r.operators.get? id = some definition ∧ left.isSome = definition.arity.takes .left ∧
        middle.isSome = definition.arity.takes .middle ∧ right.isSome = definition.arity.takes .right
  | .call (.resolved id) _ _ => ∃ function, r.functions.get? id = some function
  | _ => True

/-- A tree of nodes that fit the registries, without references to missing ones. -/
inductive Tree.Sound (r : Registries) : Tree → Prop
  | root {children : List Tree} {line : Nat} {notes : Annotations} :
      (∀ child ∈ children, Sound r child) → Sound r (.root children line notes)
  | block {children : List Tree} {line : Nat} {notes : Annotations} :
      (∀ child ∈ children, Sound r child) → Sound r (.block children line notes)
  | tag {id line : Nat} {definition : TagDefinition} {children : List Tree} {notes : Annotations} :
      r.tags.get? id = some definition → (∀ child ∈ children, Sound r child) → Sound r (.tag id children line notes)
  | operator {id line : Nat} {definition : OperatorDefinition} {left middle right : Option Tree}
      {notes : Annotations} :
      r.operators.get? id = some definition → left.isSome = definition.arity.takes .left →
      middle.isSome = definition.arity.takes .middle → right.isSome = definition.arity.takes .right →
      (∀ tree ∈ left, Sound r tree) → (∀ tree ∈ middle, Sound r tree) → (∀ tree ∈ right, Sound r tree) →
      Sound r (.operator id left middle right line notes)
  | call {callee : Callee} {receiver : Option Tree} {args : List Tree} {line : Nat} {notes : Annotations} :
      (∀ id, callee = .resolved id → ∃ function, r.functions.get? id = some function) →
      (∀ tree ∈ receiver, Sound r tree) → (∀ arg ∈ args, Sound r arg) → Sound r (.call callee receiver args line notes)
  | data {value : Scalar} {line : Nat} {notes : Annotations} : Sound r (.data value line notes)
  | list {items : List Tree} {line : Nat} {notes : Annotations} :
      (∀ item ∈ items, Sound r item) → Sound r (.list items line notes)
  | name {name : String} {line : Nat} {notes : Annotations} : Sound r (.variable name line notes)
  | identifier {name : String} {line : Nat} {notes : Annotations} : Sound r (.identifier name line notes)
  | index {base key : Tree} {line : Nat} {notes : Annotations} :
      Sound r base → Sound r key → Sound r (.index base key line notes)

namespace Parse

variable {r : Registries}

theorem IsExpression.sound {tree : Tree} (shape : IsExpression r tree) : tree.Sound r := by
  induction shape with
  | operator numbered left middle right _ _ _ lefts middles rights =>
      exact .operator numbered left middle right lefts middles rights
  | call numbered _ args => exact .call (by rintro id ⟨⟩; exact ⟨_, numbered⟩) nofun args
  | named _ _ receiver args => exact .call nofun receiver args
  | data => exact .data
  | list _ items => exact .list items
  | name => exact .name
  | index _ _ base key => exact .index base key
  | field _ base => exact .index base .identifier

mutual

theorem IsStatement.sound {tree : Tree} : IsStatement r tree → tree.Sound r
  | .text numbered _ => .tag numbered (List.forall_mem_singleton.mpr .data)
  | .print numbered _ value => .tag numbered (List.forall_mem_singleton.mpr value.sound)
  | .inclusion numbered value => .tag numbered (List.forall_mem_singleton.mpr value.sound)
  | .assignment numbered _ value => .tag numbered (List.forall_mem_singleton.mpr value.sound)
  | .conditional numbered condition content later =>
      .tag numbered (List.forall_mem_cons.mpr ⟨condition.sound, List.forall_mem_cons.mpr ⟨content.sound, later.sound⟩⟩)
  | .loop numbered iterable content later _ _ =>
      .tag numbered (List.forall_mem_cons.mpr ⟨iterable.sound, List.forall_mem_cons.mpr ⟨content.sound, later.sound⟩⟩)
  | .switch numbered subject later => .tag numbered (List.forall_mem_cons.mpr ⟨subject.sound, later.sound⟩)
  | .nested numbered _ content => .tag numbered (List.forall_mem_singleton.mpr content.sound)

theorem IsBody.sound {tree : Tree} : IsBody r tree → tree.Sound r
  | .block statements => .block fun child member => (statements child member).sound

theorem IsBranches.sound {tests hasLast : Bool} {trees : List Tree} :
    IsBranches r tests trees hasLast → ∀ tree ∈ trees, tree.Sound r
  | .ending => nofun
  | .last content => List.forall_mem_singleton.mpr content.sound
  | .test value content later =>
      List.forall_mem_cons.mpr ⟨value.sound, List.forall_mem_cons.mpr ⟨content.sound, later.sound⟩⟩

end

theorem IsTemplate.sound {tree : Tree} (shape : IsTemplate r tree) : tree.Sound r := by
  obtain ⟨statements⟩ := shape
  exact .root fun child member => (statements child member).sound

end Parse

namespace Arena

/-- The nodes of an arena form one tree with the root last. -/
structure IsTree (r : Registries) (arena : Arena) : Prop where
  /-- The root is the last node. -/
  root : ∃ last, arena.size = last + 1 ∧ arena.root = some ⟨last⟩
  /-- Children stand in front. -/
  children_lt : ∀ {id node}, arena.get? id = some node → ∀ child ∈ node.kind.children, child.index < id.index
  /-- Every node but the root is a child of exactly one node, and once. -/
  parent : ∀ {id node}, arena.get? id = some node → arena.root ≠ some id →
    ∃ parent, (arena.children parent).count id = 1 ∧ ∀ other, id ∈ arena.children other → other = parent
  /-- Every node fits the registries. -/
  fits : ∀ {id node}, arena.get? id = some node → node.kind.Fits r

theorem get?_push_size (arena : Arena) (kind : NodeKind) (line : Nat) (notes : Annotations) :
    (arena.push kind line notes).2.get? ⟨arena.size⟩ = some ⟨kind, line, notes⟩ :=
  Array.getElem?_push_size

section Laying

variable {r : Registries} {before between after : Arena} {roots later : List NodeId}

/-- Whole trees with these roots stand in `after` behind the nodes of `before`. -/
inductive Laid (r : Registries) (before : Arena) (roots : List NodeId) (after : Arena) : Prop
  | mk (new : List Node) (nodes : after.nodes.toList = before.nodes.toList ++ new)
      (owned : (new.flatMap (·.kind.children) ++ roots).Perm ((List.range' before.size new.length).map NodeId.mk))
      (ordered : ∀ i node, new[i]? = some node → ∀ child ∈ node.kind.children, child.index < before.size + i)
      (fits : ∀ node ∈ new, node.kind.Fits r)

theorem Laid.nil (arena : Arena) : Laid r arena [] arena :=
  ⟨[], (List.append_nil _).symm, .nil, nofun, nofun⟩

theorem size_of_append {new : List Node} (nodes : after.nodes.toList = before.nodes.toList ++ new) :
    after.size = before.size + new.length := by
  rw [size, ← Array.length_toList, nodes, List.length_append, Array.length_toList, size]

theorem Laid.append (first : Laid r before roots between) (second : Laid r between later after) :
    Laid r before (roots ++ later) after := by
  obtain ⟨new, nodes, owned, ordered, fits⟩ := first
  obtain ⟨more, onward, ownedMore, orderedMore, fitsMore⟩ := second
  rw [size_of_append nodes] at ownedMore orderedMore
  refine ⟨new ++ more, by rw [onward, nodes, List.append_assoc], ?_, ?_, ?_⟩
  · have both := owned.append ownedMore
    rw [← List.map_append, List.range'_append_1] at both
    rw [List.length_append]
    refine .trans ?_ both
    simp only [List.flatMap_append, List.append_assoc]
    refine (List.perm_append_left_iff _).mpr ?_
    simp only [← List.append_assoc]
    exact (List.perm_append_right_iff _).mpr List.perm_append_comm
  · intro i node there child member
    rcases Nat.lt_or_ge i new.length with inside | beyond
    · rw [List.getElem?_append_left inside] at there
      exact ordered i node there child member
    · rw [List.getElem?_append_right beyond] at there
      have := orderedMore _ node there child member
      omega
  · exact List.forall_mem_append.mpr ⟨fits, fitsMore⟩

theorem Laid.root_lt (laid : Laid r before roots after) {id : NodeId} (member : id ∈ roots) :
    before.size ≤ id.index ∧ id.index < after.size := by
  obtain ⟨new, nodes, owned, -, -⟩ := laid
  have numbered := owned.subset (List.mem_append_right _ member)
  obtain ⟨index, inside, rfl⟩ := List.mem_map.mp numbered
  rw [List.mem_range'_1] at inside
  rw [size_of_append nodes]
  exact inside

theorem Laid.push (kind : NodeKind) (laid : Laid r before kind.children after) (fits : kind.Fits r) (line : Nat)
    (notes : Annotations) :
    Laid r before [(after.push kind line notes).1] (after.push kind line notes).2 := by
  have lower : ∀ child ∈ kind.children, child.index < after.size := fun child member => (laid.root_lt member).2
  obtain ⟨new, nodes, owned, ordered, fitsNew⟩ := laid
  have size := size_of_append nodes
  refine ⟨new ++ [⟨kind, line, notes⟩], ?_, ?_, ?_, ?_⟩
  · simp only [Arena.push, Array.toList_push, nodes, List.append_assoc]
  · rw [List.length_append, List.length_singleton, List.range'_concat, List.map_append, List.flatMap_append]
    refine .append ?_ (.of_eq ?_)
    · simpa using owned
    · simp [Arena.push, size]
  · intro i node there child member
    rcases Nat.lt_or_ge i new.length with inside | beyond
    · rw [List.getElem?_append_left inside] at there
      exact ordered i node there child member
    · rw [List.getElem?_append_right beyond] at there
      obtain ⟨last, rfl⟩ := List.getElem?_eq_some_iff.mp there
      rw [List.length_singleton] at last
      have := lower child (by simpa using member)
      omega
  · exact List.forall_mem_append.mpr ⟨fitsNew, List.forall_mem_singleton.mpr fits⟩

theorem laid_addAll {trees : List Tree}
    (each : ∀ tree ∈ trees, ∀ arena : Arena, Laid r arena [(arena.add tree).1] (arena.add tree).2) (arena : Arena) :
    Laid r arena (arena.addAll trees).1 (arena.addAll trees).2 := by
  induction trees generalizing arena with
  | nil => exact .nil arena
  | cons tree trees ih =>
      rw [addAll]
      obtain ⟨first, rest⟩ := List.forall_mem_cons.mp each
      exact (first arena).append (ih rest _)

theorem laid_addOption {tree : Option Tree}
    (each : ∀ found ∈ tree, ∀ arena : Arena, Laid r arena [(arena.add found).1] (arena.add found).2) (arena : Arena) :
    Laid r arena (arena.addOption tree).1.toList (arena.addOption tree).2 := by
  cases tree with
  | none => exact .nil arena
  | some tree => exact each tree rfl arena

theorem isSome_addOption (arena : Arena) (tree : Option Tree) : (arena.addOption tree).1.isSome = tree.isSome := by
  cases tree <;> rfl

end Laying

section

variable {r : Registries} {tree : Tree}

theorem laid_add (sound : tree.Sound r) (arena : Arena) : Laid r arena [(arena.add tree).1] (arena.add tree).2 := by
  induction sound generalizing arena with
  | root _ children =>
      rw [add]
      exact (laid_addAll children arena).push (.root _) trivial _ _
  | block _ children =>
      rw [add]
      exact (laid_addAll children arena).push (.block _) trivial _ _
  | tag numbered _ children =>
      rw [add]
      exact (laid_addAll children arena).push (.tag _ _) ⟨_, numbered⟩ _ _
  | operator numbered left middle right _ _ _ lefts middles rights =>
      rw [← isSome_addOption arena] at left
      rw [← isSome_addOption] at middle right
      rw [add]
      exact (((laid_addOption lefts arena).append (laid_addOption middles _)).append (laid_addOption rights _)).push
        (.operator _ _ _ _) ⟨_, numbered, left, middle, right⟩ _ _
  | @call callee _ _ _ _ known _ _ receivers args =>
      have fits : ∀ receiver ids, (NodeKind.call callee receiver ids).Fits r := by
        intro receiver ids
        cases callee with
        | resolved id => exact known id rfl
        | named name => trivial
      rw [add]
      exact ((laid_addOption receivers arena).append (laid_addAll args _)).push (.call _ _ _) (fits _ _) _ _
  | data =>
      rw [add]
      exact (Laid.nil arena).push (.data _) trivial _ _
  | list _ items =>
      rw [add]
      exact (laid_addAll items arena).push (.list _) trivial _ _
  | name =>
      rw [add]
      exact (Laid.nil arena).push (.variable _) trivial _ _
  | identifier =>
      rw [add]
      exact (Laid.nil arena).push (.identifier _) trivial _ _
  | index _ _ base key =>
      rw [add]
      exact ((base arena).append (key _)).push (.index _ _) trivial _ _

/-- Where no number occurs twice among the children of all nodes, every child has one owner. -/
theorem exists_owner {nodes : List Node} (distinct : (nodes.flatMap (·.kind.children)).Nodup) {id : NodeId}
    (member : id ∈ nodes.flatMap (·.kind.children)) :
    ∃ (i : Nat) (node : Node), nodes[i]? = some node ∧ node.kind.children.count id = 1 ∧
      ∀ (j : Nat) (other : Node), nodes[j]? = some other → id ∈ other.kind.children → j = i := by
  obtain ⟨each, disjoint⟩ := List.nodup_flatMap.mp distinct
  obtain ⟨node, inside, owns⟩ := List.mem_flatMap.mp member
  obtain ⟨i, there⟩ := List.getElem?_of_mem inside
  refine ⟨i, node, there, List.count_eq_one_of_mem (each node inside) owns, ?_⟩
  intro j other here ownsToo
  obtain ⟨iInside, rfl⟩ := List.getElem?_eq_some_iff.mp there
  obtain ⟨jInside, rfl⟩ := List.getElem?_eq_some_iff.mp here
  rw [List.pairwise_iff_getElem] at disjoint
  rcases Nat.lt_trichotomy j i with lower | same | higher
  · exact absurd owns (disjoint j i jInside iInside lower ownsToo)
  · exact same
  · exact absurd ownsToo (disjoint i j iInside jInside higher owns)

theorem isTree_ofTree (sound : tree.Sound r) : (ofTree tree).IsTree r := by
  obtain ⟨new, nodes, owned, ordered, fits⟩ := laid_add sound {}
  rw [show ({} : Arena).nodes.toList ++ new = new from rfl] at nodes
  rw [show ({} : Arena).size = 0 from rfl, ← List.range_eq_range'] at owned
  have size : (ofTree tree).size = new.length := by
    rw [← nodes]
    rfl
  have get : ∀ id, (ofTree tree).get? id = new[id.index]? := by
    intro id
    rw [← nodes, Array.getElem?_toList]
    rfl
  have lower : ∀ (i : Nat) (node : Node), new[i]? = some node → ∀ child ∈ node.kind.children, child.index < i := by
    intro i node there child member
    exact Nat.zero_add i ▸ ordered i node there child member
  have distinct : (new.flatMap (·.kind.children) ++ [(({} : Arena).add tree).1]).Nodup := by
    refine owned.nodup_iff.mpr (List.nodup_range.map ?_)
    rintro a b ⟨⟩
    rfl
  have inside : ∀ id : NodeId, id.index < new.length →
      id ∈ new.flatMap (·.kind.children) ∨ id = (({} : Arena).add tree).1 := by
    intro id below
    have member := owned.mem_iff.mpr (List.mem_map.mpr ⟨id.index, List.mem_range.mpr below, rfl⟩)
    exact (List.mem_append.mp member).imp_right List.mem_singleton.mp
  refine ⟨?_, ?_, ?_, ?_⟩
  · have counted := owned.length_eq
    simp only [List.length_append, List.length_singleton, List.length_map, List.length_range] at counted
    refine ⟨new.length - 1, by omega, ?_⟩
    rcases inside ⟨new.length - 1⟩ (by simp only; omega) with child | same
    · -- the last node is no child: children stand in front of their owners
      obtain ⟨node, member, owns⟩ := List.mem_flatMap.mp child
      obtain ⟨i, there⟩ := List.getElem?_of_mem member
      obtain ⟨below, -⟩ := List.getElem?_eq_some_iff.mp there
      have := lower i node there _ owns
      simp only at this
      omega
    · rw [same]
      rfl
  · intro id node there
    rw [get] at there
    exact lower id.index node there
  · intro id node there other
    rw [get] at there
    obtain ⟨below, -⟩ := List.getElem?_eq_some_iff.mp there
    have child := (inside id below).resolve_right fun same => other (by rw [same]; rfl)
    obtain ⟨i, owner, stands, once, only⟩ := exists_owner (List.nodup_append.mp distinct).1 child
    refine ⟨⟨i⟩, by rw [children, get, stands]; exact once, ?_⟩
    intro parent owns
    rw [children, get] at owns
    split at owns
    · rename_i node here
      exact congrArg NodeId.mk (only parent.index node here owns)
    · cases owns
  · intro id node there
    rw [get] at there
    exact fits node (List.mem_of_getElem? there)

end

end Arena

namespace Parse

section

variable {r : Registries} {extensions : List Extension} {fallback : Option String} {tokens : List Token}

theorem isTree_of_template {tree : Tree} (built : Registries.build extensions = .ok r) (core : r.tags.IsCore)
    (reading : template ⟨r, fallback⟩ tokens = .ok tree) : (Arena.ofTree tree).IsTree r :=
  Arena.isTree_ofTree (isTemplate_of_template core (Registries.ownsAliases_operators built) reading).sound

theorem arena_isTree {filled : Arena} (built : Registries.build extensions = .ok r) (core : r.tags.IsCore)
    (reading : arena ⟨r, fallback⟩ tokens = .ok filled) : filled.IsTree r := by
  obtain ⟨tree, parsed, rfl⟩ := arena_eq_ok_iff.mp reading
  exact isTree_of_template built core parsed

end

/-- A text and an output of an item of a negated group. -/
def negationTokens : List Token :=
  [⟨.text, "a", 1⟩, ⟨.expressionStart, "", 1⟩, ⟨.operator, "not", 1⟩, ⟨.punctuation, "(", 1⟩, ⟨.identifier, "x", 1⟩,
    ⟨.punctuation, ")", 1⟩, ⟨.punctuation, ".", 1⟩, ⟨.identifier, "y", 1⟩, ⟨.expressionEnd, "", 1⟩, .eof 1]

theorem negationTokens_arena_isTree :
    ∃ r filled, Registries.build [Core.extension] = .ok r ∧ r.tags.IsCore ∧
      arena ⟨r, none⟩ negationTokens = .ok filled ∧ filled.size = 8 ∧ filled.IsTree r := by
  have sizes : (do
      let r ← (Registries.build [Core.extension]).toOption
      let filled ← (arena ⟨r, none⟩ negationTokens).toOption
      return filled.size) = some 8 := by
    rw [Registries.build_core]
    decide +kernel
  obtain ⟨r, built, sizes⟩ := Option.bind_eq_some_iff.mp sizes
  obtain ⟨filled, reading, size⟩ := Option.bind_eq_some_iff.mp sizes
  rw [toOption_eq_some] at built reading
  have core := TagRegistry.isCore_of_build built nofun
  exact ⟨r, filled, built, core, reading, Option.some.inj size, arena_isTree built core reading⟩

end Parse

end Templating
