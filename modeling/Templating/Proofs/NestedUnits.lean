import Templating.Proofs.CoreExtension
import Templating.Proofs.CoreProgram
import Templating.Proofs.UnitNames
import Templating.Proofs.LineWriting
import Mathlib.Logic.Relation

/-! # The templates of an arena

Every template tag of an arena that compiling comes to becomes one template of the module. Compiling comes to the children
of a root, of a block and of a tag; below an expression there is nothing to compile as a statement. A template ends when the
templates inside its body have ended, so the templates of a module stand in the order of a walk that comes to the children
of a node before the node.
-/

namespace Templating

namespace NodeKind

/-- A node that has statements among its children. -/
def isStatement : NodeKind → Bool
  | .root _ => true
  | .block _ => true
  | .tag _ _ => true
  | _ => false

end NodeKind

namespace Arena

/-- The children of a root, a block or a tag. -/
def statementChildren (arena : Arena) (id : NodeId) : List NodeId :=
  match arena.get? id with
  | none => []
  | some node => if node.kind.isStatement then node.kind.children else []

/-- A node lies below another one or is the same, with roots, blocks and tags in between. -/
def Reaches (arena : Arena) : NodeId → NodeId → Prop :=
  Relation.ReflTransGen fun parent child => child ∈ arena.statementChildren parent

/-- A node is a tag that has a template of its own. -/
def opensUnit (r : Registries) (arena : Arena) (id : NodeId) : Bool :=
  match (arena.get? id).map Node.kind with
  | some (.tag tag _) => decide ((r.tags.get? tag).map (·.form) = some .nested)
  | _ => false

/-- The name that a template tag gives to its template. -/
def unitName (arena : Arena) (id : NodeId) : String :=
  ((arena.get? id).bind (·.notes.text? "name")).getD ""

/-- The template tags below a node, down to `depth` levels, in the order in which they end. -/
def endedUnits (r : Registries) (arena : Arena) : Nat → NodeId → List NodeId
  | 0, _ => []
  | depth + 1, id =>
    (arena.statementChildren id).flatMap (arena.endedUnits r depth) ++ if arena.opensUnit r id then [id] else []

/-- The names of a template and of its type, as a template tag gives them. -/
def unitNames (arena : Arena) (id : NodeId) : String × String :=
  (arena.unitName id, Code.nestedTypeName (arena.unitName id))

theorem reaches_of_mem_endedUnits {r : Registries} {arena : Arena} {depth : Nat} {root id : NodeId}
    (member : id ∈ arena.endedUnits r depth root) : arena.Reaches root id ∧ arena.opensUnit r id := by
  induction depth generalizing root with
  | zero => cases member
  | succ depth ih =>
      rcases List.mem_append.mp member with below | here
      · obtain ⟨child, among, inside⟩ := List.mem_flatMap.mp below
        obtain ⟨reach, opens⟩ := ih inside
        exact ⟨.head among reach, opens⟩
      · split at here
        · cases List.mem_singleton.mp here
          exact ⟨.refl, ‹_›⟩
        · cases here

end Arena

/-- The names of a compiled template and of its type. -/
def Code.Template.names (template : Code.Template) : String × String :=
  (template.name, template.typeName)

namespace Compile

section

variable {s : Setting} {arena : Arena} {depth : Nat} {id root : NodeId}

theorem expression_node {value : Code.Expr} (compiled : expression s.registries (arena.treeAt depth id) = .ok value) :
    arena.statementChildren id = [] ∧ arena.opensUnit s.registries id = false := by
  cases depth with
  | zero => cases compiled
  | succ depth =>
      unfold Arena.statementChildren Arena.opensUnit
      rw [Arena.treeAt] at compiled
      cases found : arena.get? id with
      | none => exact ⟨rfl, rfl⟩
      | some node =>
          obtain ⟨kind, line, notes⟩ := node
          rw [found] at compiled
          cases kind with
          | root | block | tag => cases compiled
          | operator | call | data | list | «variable» | identifier | index => exact ⟨rfl, rfl⟩

theorem statement_node {inLoop : Bool} {p p' : Progress} {code : List Code.Stmt}
    (compiled : statement s inLoop p (arena.treeAt depth id) = .ok (code, p')) :
    ∃ levels, depth = levels + 1 ∧
      ((arena.opensUnit s.registries id = false ∧
          Compiles s p ((arena.statementChildren id).map (arena.treeAt levels)) p') ∨
        (arena.opensUnit s.registries id = true ∧
          EndsNested s p (some (arena.unitName id)) ((arena.statementChildren id).map (arena.treeAt levels)) p')) := by
  cases depth with
  | zero => cases compiled
  | succ levels =>
      refine ⟨levels, rfl, ?_⟩
      unfold Arena.statementChildren Arena.opensUnit Arena.unitName
      rw [Arena.treeAt] at compiled
      cases found : arena.get? id with
      | none =>
          rw [found] at compiled
          cases compiled
      | some node =>
          obtain ⟨kind, line, notes⟩ := node
          rw [found] at compiled
          cases kind with
          | root children | block children => exact .inl ⟨rfl, statements_compiles compiled⟩
          | tag tag children =>
              rcases tag_compiles compiled with ⟨plain, compiles⟩ | ⟨opens, ends⟩
              · exact .inl ⟨decide_eq_false plain, compiles⟩
              · refine .inr ⟨decide_eq_true opens, ?_⟩
                obtain ⟨given, line, content, begun, body, last, name, rest⟩ := ends
                exact ⟨given, line, content, begun, body, last, by simp [name], rest⟩
          | operator | call | data | list | «variable» | identifier | index => cases compiled

theorem endedUnits_expression {value : Code.Expr} (compiled : expression s.registries (arena.treeAt depth id) = .ok value) :
    arena.endedUnits s.registries depth id = [] := by
  obtain ⟨children, plain⟩ := expression_node compiled
  cases depth with
  | zero => rfl
  | succ depth => simp [Arena.endedUnits, children, plain]

/-- Between two stages of compiling, the templates of these tags ended, in this order. -/
def TagsEnd (arena : Arena) (p : Progress) (ids : List NodeId) (p' : Progress) : Prop :=
  p'.finished.map Code.Template.names = p.finished.map Code.Template.names ++ ids.map arena.unitNames

theorem tagsEnd_children {p p' : Progress} {ids : List NodeId}
    (each : ∀ {inLoop p p' code id}, statement s inLoop p (arena.treeAt depth id) = .ok (code, p') →
      TagsEnd arena p (arena.endedUnits s.registries depth id) p')
    (compiles : Compiles s p (ids.map (arena.treeAt depth)) p') :
    TagsEnd arena p (ids.flatMap (arena.endedUnits s.registries depth)) p' := by
  unfold TagsEnd at each ⊢
  induction ids generalizing p with
  | nil =>
      cases compiles with
      | done same => simp [same.finished]
  | cons id ids ih =>
      cases compiles with
      | expression compiled rest => simp [ih rest, endedUnits_expression compiled]
      | statement same compiled rest => simp [ih rest, each compiled, same.finished]

/-- The templates that end while a node is compiled are those of the template tags below it, in that order. -/
theorem tagsEnd_statement {inLoop : Bool} {p p' : Progress} {code : List Code.Stmt}
    (compiled : statement s inLoop p (arena.treeAt depth id) = .ok (code, p')) :
    TagsEnd arena p (arena.endedUnits s.registries depth id) p' := by
  induction depth generalizing id inLoop p p' code with
  | zero => cases compiled
  | succ depth ih =>
      obtain ⟨levels, same, ⟨plain, compiles⟩ | ⟨opens, ends⟩⟩ := statement_node compiled
      all_goals cases same
      · simpa [Arena.endedUnits, plain] using tagsEnd_children ih compiles
      · obtain ⟨given, line, content, begun, body, last, name, only, beginning, inner, rfl⟩ := ends
        cases name
        obtain ⟨child, children, rfl⟩ : ∃ child, arena.statementChildren id = [child] ∧
            arena.treeAt depth child = content := by
          simpa [List.map_eq_singleton_iff] using only
        unfold TagsEnd at ih ⊢
        simp [Arena.endedUnits, opens, children, endNested, ih inner, beginNested_finished beginning, Code.Template.names,
          Arena.unitNames]

/-- Whatever lies below a node that is compiled is compiled too, as an expression or as a statement. -/
theorem child_accepted {inLoop : Bool} {p : Progress} {compiled : List Code.Stmt × Progress} {child : NodeId}
    (compiling : statement s inLoop p (arena.treeAt (depth + 1) id) = .ok compiled)
    (among : child ∈ arena.statementChildren id) :
    (∃ value, expression s.registries (arena.treeAt depth child) = .ok value) ∨
      ∃ inLoop start compiled, statement s inLoop start (arena.treeAt depth child) = .ok compiled := by
  have member := List.mem_map_of_mem (f := arena.treeAt depth) among
  obtain ⟨levels, same, ⟨-, compiles⟩ | ⟨-, ends⟩⟩ := statement_node compiling
  all_goals cases same
  · exact compiles.accepted member
  · obtain ⟨given, line, content, begun, body, last, -, only, -, inner, -⟩ := ends
    rw [only] at member
    cases List.mem_singleton.mp member
    exact .inr ⟨_, _, _, inner⟩

theorem mem_endedUnits {inLoop : Bool} {p : Progress} {compiled : List Code.Stmt × Progress}
    (compiling : statement s inLoop p (arena.treeAt depth root) = .ok compiled) (reach : arena.Reaches root id)
    (opens : arena.opensUnit s.registries id) : id ∈ arena.endedUnits s.registries depth root := by
  induction reach using Relation.ReflTransGen.head_induction_on generalizing depth inLoop p compiled with
  | refl =>
      obtain ⟨levels, rfl, -⟩ := statement_node compiling
      simp [Arena.endedUnits, opens]
  | @head parent child among reach ih =>
      obtain ⟨levels, rfl, -⟩ := statement_node compiling
      apply List.mem_append_left
      apply List.mem_flatMap.mpr
      rcases child_accepted compiling among with ⟨value, compiled⟩ | ⟨inner, start, code, compiled⟩
      · -- Nothing lies below an expression, so the tag would have to be the expression itself.
        obtain ⟨children, plain⟩ := expression_node compiled
        rcases reach.cases_head with rfl | ⟨next, below, -⟩
        · simp [plain] at opens
        · simp [children] at below
      · exact ⟨child, among, ih compiled⟩

/-- The templates of a module that was compiled from an arena: its own, and one for each template tag that is reached
through roots, blocks and tags, in the order in which they end. -/
structure HasUnits (s : Setting) (arena : Arena) (root : NodeId) (unit : Code.Module) : Prop where
  /-- The first template is that of the arena. -/
  main : unit.main.names = (s.mainName, "Template")
  /-- The nested ones are those of the template tags, in the order in which these end. -/
  nested : unit.nested.map Code.Template.names = (arena.endedUnits s.registries arena.size root).map arena.unitNames
  /-- There is one for each. -/
  once : (arena.endedUnits s.registries arena.size root).Nodup
  /-- All that are reached count, and no others. -/
  reached : ∀ id, id ∈ arena.endedUnits s.registries arena.size root ↔
    arena.Reaches root id ∧ arena.opensUnit s.registries id
  /-- No two have one name. -/
  names : (unit.templates.map Code.Template.name).Nodup
  /-- No two have one type. -/
  typeNames : (unit.templates.map Code.Template.typeName).Nodup

theorem nestedTypeName_ne_main (name : String) : "Template" ≠ Code.nestedTypeName name := by
  intro same
  have length := congrArg String.length same
  rw [Code.nestedTypeName, String.length_append, show "Template".length = 8 from rfl,
    show "Template_".length = 9 from rfl] at length
  omega

theorem exists_root {unit : Code.Module} (compiled : template s arena.toTree? = .ok unit) :
    ∃ root, arena.root = some root ∧ template s (some (arena.treeAt arena.size root)) = .ok unit := by
  unfold Arena.toTree? at compiled
  cases found : arena.root with
  | none =>
      rw [found] at compiled
      cases compiled
  | some root =>
      rw [found] at compiled
      exact ⟨root, rfl, compiled⟩

theorem template_hasUnits {unit : Code.Module} (compiled : template s (some (arena.treeAt arena.size root)) = .ok unit) :
    HasUnits s arena root unit := by
  obtain ⟨-, names⟩ := templateNames_nodup compiled
  obtain ⟨⟨body, last⟩, inner, ⟨⟩⟩ := bind_eq_ok.mp compiled
  obtain ⟨-, types⟩ := nestedTypes_nodup inner
  have nested : last.finished.map Code.Template.names =
      (arena.endedUnits s.registries arena.size root).map arena.unitNames := by
    simpa [TagsEnd] using tagsEnd_statement inner
  have named := congrArg (List.map Prod.fst) nested
  have typed := congrArg (List.map Prod.snd) nested
  simp only [List.map_map, Function.comp_def, Code.Template.names, Arena.unitNames] at named typed
  rw [named, List.map_map] at types
  constructor
  · rfl
  · exact nested
  · exact .of_map _ types
  · intro id
    exact ⟨Arena.reaches_of_mem_endedUnits, fun ⟨reach, opens⟩ => mem_endedUnits inner reach opens⟩
  · exact names
  · apply List.nodup_cons.mpr
    rw [typed]
    refine ⟨fun taken => ?_, types⟩
    obtain ⟨id, -, same⟩ := List.mem_map.mp taken
    exact nestedTypeName_ne_main _ same.symm

theorem write_unit {w w' : Workbench} (opens : arena.opensUnit s.registries id)
    (written : write s w (arena.treeAt (depth + 1) id) = .ok w') :
    ∃ content begun last, arena.statementChildren id = [content] ∧
      WrittenApart s w (arena.unitName id) (arena.treeAt depth content) begun last w' := by
  unfold Arena.opensUnit at opens
  unfold Arena.statementChildren Arena.unitName
  rw [Arena.treeAt] at written
  cases found : arena.get? id with
  | none => simp [found] at opens
  | some node =>
      obtain ⟨kind, line, notes⟩ := node
      rw [found] at opens written
      cases kind with
      | tag tag children =>
          simp only [Option.map_some] at opens
          simp only [write] at written
          cases known : s.registries.tags.get? tag with
          | none => simp [known] at opens
          | some definition =>
              have form : definition.form = .nested := by simpa [known] using opens
              simp only [known, form] at written
              obtain ⟨content, given, begun, last, only, name, apart⟩ := writeNested_apart written
              obtain ⟨child, below, rfl⟩ : ∃ child, children = [child] ∧ arena.treeAt depth child = content := by
                simpa [List.map_eq_singleton_iff] using only
              refine ⟨child, begun, last, by simp [NodeKind.isStatement, NodeKind.children, below], ?_⟩
              simpa [name] using apart
      | root | block | operator | call | data | list | «variable» | identifier | index => cases opens

end

/-- The templates of an arena. The module that is compiled has its own template first and then one for each template tag
that is reached through roots, blocks and tags, in the order in which they end, with different names and types. It is the
module that is written in one go over the arena; and wherever a template tag is met in between, its template starts empty
and the one around it goes on where it stood. -/
theorem template_units {s : Setting} {arena : Arena} {unit : Code.Module} (compiled : template s arena.toTree? = .ok unit) :
    ∃ root, arena.root = some root ∧ HasUnits s arena root unit ∧
      (∃ w, write s (.start s) (arena.treeAt arena.size root) = .ok w ∧ w.suspended = [] ∧
        w.current :: w.finished = unit.templates.map OpenUnit.ofTemplate ∧
        (w.current :: w.finished).map (·.buffer.text) = unit.templates.map Code.Template.bodyText) ∧
      ∀ depth id w w', arena.opensUnit s.registries id → write s w (arena.treeAt (depth + 1) id) = .ok w' →
        ∃ content begun last, arena.statementChildren id = [content] ∧
          WrittenApart s w (arena.unitName id) (arena.treeAt depth content) begun last w' := by
  obtain ⟨root, found, compiled⟩ := exists_root compiled
  obtain ⟨w, written, suspended, templates⟩ := write_template compiled
  refine ⟨root, found, template_hasUnits compiled, ⟨w, written, suspended, templates, ?_⟩, ?_⟩
  · simp [templates, OpenUnit.text_ofTemplate]
  · exact fun depth id w w' => write_unit

/-- A loop around a template with a template inside, and another template behind the loop. -/
def towerArena : Arena where
  nodes := #[⟨.variable "x", 1, {}⟩, ⟨.block [], 1, {}⟩, ⟨.tag 6 [⟨1⟩], 1, Annotations.set {} "name" (.text "inner")⟩,
    ⟨.block [⟨2⟩], 1, {}⟩, ⟨.tag 6 [⟨3⟩], 1, Annotations.set {} "name" (.text "outer")⟩, ⟨.variable "v", 1, {}⟩,
    ⟨.tag 0 [⟨5⟩], 1, {}⟩, ⟨.block [⟨4⟩, ⟨6⟩], 1, {}⟩, ⟨.tag 2 [⟨0⟩, ⟨7⟩], 1, Annotations.set {} "value_var" (.text "v")⟩,
    ⟨.tag 6 [⟨1⟩], 1, Annotations.set {} "name" (.text "last")⟩, ⟨.root [⟨8⟩, ⟨9⟩], 1, {}⟩]
  root := some ⟨10⟩

theorem towerArena_units :
    ∃ unit w', template ⟨Core.registries, "page"⟩ towerArena.toTree? = .ok unit ∧
      unit.templates.map Code.Template.name = ["page", "inner", "outer", "last"] ∧
      write ⟨Core.registries, "page"⟩ (.start ⟨Core.registries, "page"⟩) (towerArena.treeAt 5 ⟨4⟩) = .ok w' ∧
      (∃ root, towerArena.root = some root ∧ HasUnits ⟨Core.registries, "page"⟩ towerArena root unit) ∧
      ∃ content begun last, towerArena.statementChildren ⟨4⟩ = [content] ∧
        WrittenApart ⟨Core.registries, "page"⟩ (.start ⟨Core.registries, "page"⟩) "outer" (towerArena.treeAt 4 content) begun
          last w' := by
  have outcome : (do
      let unit ← (template ⟨Core.registries, "page"⟩ towerArena.toTree?).toOption
      let w' ← (write ⟨Core.registries, "page"⟩ (.start ⟨Core.registries, "page"⟩) (towerArena.treeAt 5 ⟨4⟩)).toOption
      return (unit.templates.map Code.Template.name, w'.current.name)) =
        some (["page", "inner", "outer", "last"], "page") := by
    decide +kernel
  obtain ⟨unit, compiled, outcome⟩ := Option.bind_eq_some_iff.mp outcome
  obtain ⟨w', written, outcome⟩ := Option.bind_eq_some_iff.mp outcome
  rw [toOption_eq_some] at compiled written
  obtain ⟨root, found, units, -, apart⟩ := template_units compiled
  exact ⟨unit, w', compiled, (Prod.mk.inj (Option.some.inj outcome)).1, written, ⟨root, found, units⟩,
    apart 4 ⟨4⟩ _ w' (by decide +kernel) written⟩

/-- A template tag in front of an operator that has only an operand behind it. -/
def operandArena : Arena where
  nodes := #[⟨.block [], 1, {}⟩, ⟨.tag 6 [⟨0⟩], 1, Annotations.set {} "name" (.text "t")⟩, ⟨.variable "x", 1, {}⟩,
    ⟨.operator 4 (some ⟨1⟩) none (some ⟨2⟩), 1, {}⟩, ⟨.tag 0 [⟨3⟩], 1, {}⟩, ⟨.root [⟨4⟩], 1, {}⟩]
  root := some ⟨5⟩

/-- No template comes from a tag that lies where an operator does not look. -/
theorem operandArena_unread :
    ∃ unit root, template ⟨Core.registries, "page"⟩ operandArena.toTree? = .ok unit ∧ operandArena.root = some root ∧
      Relation.ReflTransGen (fun parent child => child ∈ operandArena.children parent) root ⟨1⟩ ∧
      operandArena.opensUnit Core.registries ⟨1⟩ ∧ unit.nested.length = 0 := by
  have outcome : (template ⟨Core.registries, "page"⟩ operandArena.toTree?).toOption.map (·.nested.length) = some 0 := by
    decide +kernel
  obtain ⟨unit, compiled, alone⟩ := Option.map_eq_some_iff.mp outcome
  refine ⟨unit, ⟨5⟩, toOption_eq_some.mp compiled, rfl, ?_, by decide +kernel, alone⟩
  have print : ⟨4⟩ ∈ operandArena.children ⟨5⟩ := List.mem_cons_self
  have operator : ⟨3⟩ ∈ operandArena.children ⟨4⟩ := List.mem_cons_self
  have operand : ⟨1⟩ ∈ operandArena.children ⟨3⟩ := List.mem_cons_self
  exact .head print (.head operator (.single operand))

end Compile

end Templating
