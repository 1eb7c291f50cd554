import Templating.Proofs.ExpressionWriting
import Templating.Proofs.Keyed
import Templating.Proofs.Registration
import Templating.Parse.Template
import Templating.Registry.Core

/-! # The shape of trees that were read

Reading gives trees of few shapes: operators have the operands of their arity, every number is one of the
registries, and each core tag has the children and the annotations that its form asks for. The shapes say
nothing about annotations that no tag makes when it is read, so trees keep them when passes annotate them.
-/

namespace Templating

theorem Annotations.get?_set (notes : Annotations) (key other : String) (value : Annotation) :
    (notes.set key value).get? other = if other = key then some value else notes.get? other :=
  lookup_insertByKey key other value notes.entries

/-- All tags are core tags. -/
def TagRegistry.IsCore (registry : TagRegistry) : Prop :=
  ∀ tag ∈ registry.tags, tag ∈ Core.tags

theorem TagRegistry.isCore_of_tags {r : Registries} {extensions : List Extension}
    (built : Registries.build extensions = .ok r) (core : ∀ extension ∈ extensions, ∀ tag ∈ extension.tags, tag ∈ Core.tags) :
    r.tags.IsCore := by
  intro tag member
  obtain ⟨extension, contributes, own⟩ := Registries.mem_tags_of_build built tag member
  exact core extension contributes tag own

theorem TagRegistry.isCore_of_build {r : Registries} {extensions : List Extension}
    (built : Registries.build (Core.extension :: extensions) = .ok r) (functions : ∀ extension ∈ extensions, extension.tags = []) :
    r.tags.IsCore := by
  refine isCore_of_tags built (List.forall_mem_cons.mpr ⟨fun tag own => own, fun extension member tag own => ?_⟩)
  rw [functions extension member] at own
  cases own

namespace Parse

/-- The expressions that are read. -/
inductive IsExpression (r : Registries) : Tree → Prop
  | operator {id line : Nat} {definition : OperatorDefinition} {left middle right : Option Tree}
      {notes : Annotations} :
      r.operators.get? id = some definition → left.isSome = definition.arity.takes .left →
      middle.isSome = definition.arity.takes .middle → right.isSome = definition.arity.takes .right →
      (∀ tree ∈ left, IsExpression r tree) → (∀ tree ∈ middle, IsExpression r tree) →
      (∀ tree ∈ right, IsExpression r tree) → IsExpression r (.operator id left middle right line notes)
  | call {id line : Nat} {function : TemplateFunction} {args : List Tree} {notes : Annotations} :
      r.functions.get? id = some function → (∀ arg ∈ args, IsExpression r arg) →
      IsExpression r (.call (.resolved id) none args line notes)
  | named {name : String} {receiver : Option Tree} {args : List Tree} {line : Nat} {notes : Annotations} :
      (∀ tree ∈ receiver, IsExpression r tree) → (∀ arg ∈ args, IsExpression r arg) →
      IsExpression r (.call (.named name) receiver args line notes)
  | data {value : Scalar} {line : Nat} {notes : Annotations} : IsExpression r (.data value line notes)
  | list {items : List Tree} {line : Nat} {notes : Annotations} :
      (∀ item ∈ items, IsExpression r item) → IsExpression r (.list items line notes)
  | name {name : String} {line : Nat} {notes : Annotations} : IsExpression r (.variable name line notes)
  | index {base key : Tree} {line : Nat} {notes : Annotations} :
      IsExpression r base → IsExpression r key → IsExpression r (.index base key line notes)
  | field {base : Tree} {name : String} {line inner : Nat} {notes innerNotes : Annotations} :
      IsExpression r base → IsExpression r (.index base (.identifier name inner innerNotes) line notes)

mutual

/-- The statements that are read with the core tags. -/
inductive IsStatement (r : Registries) : Tree → Prop
  | text {id line inner : Nat} {text : String} {notes innerNotes : Annotations} :
      r.tags.get? id = some Core.printTag → notes.flag "text" false = true →
      IsStatement r (.tag id [.data (.string text) inner innerNotes] line notes)
  | print {id line : Nat} {value : Tree} {notes : Annotations} :
      r.tags.get? id = some Core.printTag → notes.flag "text" false = false → IsExpression r value →
      IsStatement r (.tag id [value] line notes)
  | inclusion {id line : Nat} {value : Tree} {notes : Annotations} :
      r.tags.get? id = some Core.includeTag → IsExpression r value → IsStatement r (.tag id [value] line notes)
  | assignment {id line : Nat} {name : String} {value : Tree} {notes : Annotations} :
      r.tags.get? id = some Core.setTag → notes.text? "name" = some name → IsExpression r value →
      IsStatement r (.tag id [value] line notes)
  | conditional {id line : Nat} {condition content : Tree} {later : List Tree} {notes : Annotations} :
      r.tags.get? id = some Core.ifTag → IsExpression r condition → IsBody r content →
      IsBranches r true later (notes.flag "has_else" false) →
      IsStatement r (.tag id (condition :: content :: later) line notes)
  | loop {id line : Nat} {iterable content : Tree} {later : List Tree} {hasElse : Bool} {targets : LoopVariables}
      {notes : Annotations} :
      r.tags.get? id = some Core.forTag → IsExpression r iterable → IsBody r content →
      IsBranches r false later hasElse → notes.text? "value_var" = some targets.value →
      notes.text? "key_var" = targets.key → IsStatement r (.tag id (iterable :: content :: later) line notes)
  | switch {id line : Nat} {subject : Tree} {later : List Tree} {notes : Annotations} :
      r.tags.get? id = some Core.switchTag → IsExpression r subject →
      IsBranches r true later (notes.flag "has_default" false) → IsStatement r (.tag id (subject :: later) line notes)
  | nested {id line : Nat} {name : String} {content : Tree} {notes : Annotations} :
      r.tags.get? id = some Core.templateTag → notes.text? "name" = some name → IsBody r content →
      IsStatement r (.tag id [content] line notes)

/-- The body of a block. -/
inductive IsBody (r : Registries) : Tree → Prop
  | block {children : List Tree} {line : Nat} {notes : Annotations} :
      (∀ child ∈ children, IsStatement r child) → IsBody r (.block children line notes)

/-- The children of a tag behind its first body, with pairs of a value and a body if there are tests. The
flag says whether there is a last body alone. -/
inductive IsBranches (r : Registries) : Bool → List Tree → Bool → Prop
  | ending {tests : Bool} : IsBranches r tests [] false
  | last {tests : Bool} {content : Tree} : IsBody r content → IsBranches r tests [content] true
  | test {value content : Tree} {later : List Tree} {hasLast : Bool} :
      IsExpression r value → IsBody r content → IsBranches r true later hasLast →
      IsBranches r true (value :: content :: later) hasLast

end

/-- The trees of whole templates. -/
inductive IsTemplate (r : Registries) : Tree → Prop
  | root {children : List Tree} {line : Nat} {notes : Annotations} :
      (∀ child ∈ children, IsStatement r child) → IsTemplate r (.root children line notes)

section

variable {r : Registries} {budget : Nat} {tree : Tree} {c c' : Cursor}

theorem isExpression_some {tree : Tree} (shape : IsExpression r tree) : ∀ found ∈ some tree, IsExpression r found := by
  rintro found ⟨⟩
  exact shape

theorem isExpression_callee {receiver : Option Tree} {args : List Tree} (name : String) (line : Nat)
    (notes : Annotations) (receivers : ∀ tree ∈ receiver, IsExpression r tree) (shapes : ∀ arg ∈ args, IsExpression r arg) :
    IsExpression r (.call (callee r name receiver) receiver args line notes) := by
  cases receiver with
  | some base => exact .named receivers shapes
  | none =>
      cases known : r.functions.lookup? name with
      | none =>
          rw [show callee r name none = .named name by simp only [callee, known]]
          exact .named receivers shapes
      | some id =>
          obtain ⟨function, numbered, -⟩ := FunctionRegistry.get?_of_lookup? known
          rw [show callee r name none = .resolved id by simp only [callee, known]]
          exact .call numbered shapes

/-- What one unit of budget more reads has the shape of an expression if what fewer units read has. -/
structure ReadsExpressions (r : Registries) (budget : Nat) : Prop where
  binary : ∀ {least c tree c'}, binary r budget least c = .ok (tree, c') → IsExpression r tree
  climb : ∀ {least left earlier c tree c'}, IsExpression r left → climb r budget least left earlier c = .ok (tree, c') →
    IsExpression r tree
  operands : ∀ {found left line c tree c'}, r.operators.get? found.id = some found.definition →
    found.definition.arity ≠ .unaryPrefix → IsExpression r left → operands r budget found left line c = .ok (tree, c') →
    IsExpression r tree
  unary : ∀ {c tree c'}, unary r budget c = .ok (tree, c') → IsExpression r tree
  primary : ∀ {c tree c'}, primary r budget c = .ok (tree, c') → IsExpression r tree
  trailers : ∀ {base c tree c'}, IsExpression r base → trailers r budget base c = .ok (tree, c') → IsExpression r tree
  arguments : ∀ {label closer c trees c'}, arguments r budget label closer c = .ok (trees, c') →
    ∀ tree ∈ trees, IsExpression r tree
  items : ∀ {closer c trees c'}, items r budget closer c = .ok (trees, c') → ∀ tree ∈ trees, IsExpression r tree

namespace ReadsExpressions

theorem binary_succ (reads : ReadsExpressions r budget) {least : UInt8}
    (reading : Parse.binary r (budget + 1) least c = .ok (tree, c')) : IsExpression r tree := by
  rw [Parse.binary] at reading
  obtain ⟨⟨left, between⟩, operand, climbing⟩ := bind_eq_ok.mp reading
  exact reads.climb (reads.unary operand) climbing

theorem climb_succ (owns : r.operators.OwnsAliases) (reads : ReadsExpressions r budget) {least : UInt8} {left : Tree}
    {earlier : Option (UInt8 × String)} (shape : IsExpression r left)
    (reading : Parse.climb r (budget + 1) least left earlier c = .ok (tree, c')) : IsExpression r tree := by
  rw [Parse.climb] at reading
  cases matched : r.operators.binaryAt? c.stream.remaining with
  | none =>
      rw [matched] at reading
      dsimp only at reading
      split at reading
      · cases reading
      · cases reading
        exact shape
  | some found =>
      rw [matched] at reading
      dsimp only at reading
      obtain ⟨numbered, notPrefix⟩ := owns.binaryAt? matched
      split at reading
      · cases reading
        exact shape
      · split at reading
        · cases reading
        · obtain ⟨⟨node, between⟩, taking, climbing⟩ := bind_eq_ok.mp reading
          exact reads.climb (reads.operands numbered notPrefix shape taking) climbing

theorem operands_succ (reads : ReadsExpressions r budget) {found : OperatorRegistry.Found} {left : Tree} {line : Nat}
    (numbered : r.operators.get? found.id = some found.definition) (notPrefix : found.definition.arity ≠ .unaryPrefix)
    (shape : IsExpression r left) (reading : Parse.operands r (budget + 1) found left line c = .ok (tree, c')) :
    IsExpression r tree := by
  cases arity : found.definition.arity with
  | binary =>
      simp only [Parse.operands, arity] at reading
      obtain ⟨⟨right, between⟩, taking, result⟩ := bind_eq_ok.mp reading
      cases result
      exact .operator numbered (by rw [arity]; rfl) (by rw [arity]; rfl) (by rw [arity]; rfl)
        (isExpression_some shape) nofun (isExpression_some (reads.binary taking))
  | unaryPrefix => exact absurd arity notPrefix
  | test takesArgument =>
      cases takesArgument with
      | true =>
          simp only [Parse.operands, arity] at reading
          obtain ⟨⟨right, between⟩, taking, result⟩ := bind_eq_ok.mp reading
          cases result
          exact .operator numbered (by rw [arity]; rfl) (by rw [arity]; rfl) (by rw [arity]; rfl)
            (isExpression_some shape) nofun (isExpression_some (reads.binary taking))
      | false =>
          simp only [Parse.operands, arity] at reading
          cases reading
          exact .operator numbered (by rw [arity]; rfl) (by rw [arity]; rfl) (by rw [arity]; rfl)
            (isExpression_some shape) nofun nofun
  | ternary =>
      simp only [Parse.operands, arity] at reading
      obtain ⟨⟨middle, between⟩, taking, rest⟩ := bind_eq_ok.mp reading
      obtain ⟨⟨colon, behind⟩, -, rest⟩ := bind_eq_ok.mp rest
      obtain ⟨⟨right, last⟩, ending, result⟩ := bind_eq_ok.mp rest
      cases result
      exact .operator numbered (by rw [arity]; rfl) (by rw [arity]; rfl) (by rw [arity]; rfl)
        (isExpression_some shape) (isExpression_some (reads.binary taking)) (isExpression_some (reads.binary ending))

theorem unary_succ (owns : r.operators.OwnsAliases) (reads : ReadsExpressions r budget)
    (reading : Parse.unary r (budget + 1) c = .ok (tree, c')) : IsExpression r tree := by
  rw [Parse.unary] at reading
  cases matched : r.operators.unaryAt? c.stream.remaining with
  | none =>
      rw [matched] at reading
      obtain ⟨⟨base, between⟩, taking, trailing⟩ := bind_eq_ok.mp reading
      exact reads.trailers (reads.primary taking) trailing
  | some found =>
      rw [matched] at reading
      obtain ⟨numbered, arity⟩ := owns.unaryAt? matched
      obtain ⟨⟨operand, behind⟩, taking, result⟩ := bind_eq_ok.mp reading
      cases result
      exact .operator numbered (by rw [arity]; rfl) (by rw [arity]; rfl) (by rw [arity]; rfl) nofun nofun
        (isExpression_some (reads.binary taking))

theorem primary_succ (reads : ReadsExpressions r budget) (reading : Parse.primary r (budget + 1) c = .ok (tree, c')) :
    IsExpression r tree := by
  rw [Parse.primary] at reading
  dsimp only at reading
  split at reading
  · obtain ⟨value, -, result⟩ := bind_eq_ok.mp reading
    cases result
    exact .data
  split at reading
  · cases reading
    exact .data
  split at reading
  · split at reading
    · obtain ⟨⟨args, behind⟩, listing, result⟩ := bind_eq_ok.mp reading
      cases result
      exact isExpression_callee _ _ _ nofun (reads.arguments listing)
    · cases reading
      exact .name
  split at reading
  · obtain ⟨⟨inner, behind⟩, taking, rest⟩ := bind_eq_ok.mp reading
    obtain ⟨last, -, result⟩ := bind_eq_ok.mp rest
    cases result
    exact reads.binary taking
  split at reading
  · obtain ⟨⟨items, behind⟩, listing, result⟩ := bind_eq_ok.mp reading
    cases result
    exact .list (reads.arguments listing)
  · cases reading

theorem trailers_succ (reads : ReadsExpressions r budget) {base : Tree} (shape : IsExpression r base)
    (reading : Parse.trailers r (budget + 1) base c = .ok (tree, c')) : IsExpression r tree := by
  rw [Parse.trailers] at reading
  dsimp only at reading
  split at reading
  · obtain ⟨⟨key, between⟩, taking, rest⟩ := bind_eq_ok.mp reading
    obtain ⟨behind, -, trailing⟩ := bind_eq_ok.mp rest
    exact reads.trailers (.index shape (reads.binary taking)) trailing
  split at reading
  · split at reading
    · split at reading
      · obtain ⟨⟨args, behind⟩, listing, trailing⟩ := bind_eq_ok.mp reading
        exact reads.trailers (isExpression_callee _ _ _ (isExpression_some shape) (reads.arguments listing)) trailing
      · exact reads.trailers (.field shape) reading
    · split at reading
      · obtain ⟨value, -, trailing⟩ := bind_eq_ok.mp reading
        exact reads.trailers (.index shape .data) trailing
      · cases reading
  · cases reading
    exact shape

theorem arguments_succ (reads : ReadsExpressions r budget) {label : String} {closer : TokenPattern} {trees : List Tree}
    (reading : Parse.arguments r (budget + 1) label closer c = .ok (trees, c')) : ∀ tree ∈ trees, IsExpression r tree := by
  rw [Parse.arguments] at reading
  obtain ⟨⟨items, between⟩, listing, rest⟩ := bind_eq_ok.mp reading
  obtain ⟨behind, -, result⟩ := bind_eq_ok.mp rest
  cases result
  exact reads.items listing

theorem items_succ (reads : ReadsExpressions r budget) {closer : TokenPattern} {trees : List Tree}
    (reading : Parse.items r (budget + 1) closer c = .ok (trees, c')) : ∀ tree ∈ trees, IsExpression r tree := by
  rw [Parse.items] at reading
  split at reading
  · cases reading
    nofun
  · obtain ⟨⟨item, between⟩, taking, rest⟩ := bind_eq_ok.mp reading
    dsimp only at rest
    split at rest
    · obtain ⟨⟨later, behind⟩, listing, result⟩ := bind_eq_ok.mp rest
      cases result
      exact List.forall_mem_cons.mpr ⟨reads.binary taking, reads.items listing⟩
    · cases rest
      exact List.forall_mem_cons.mpr ⟨reads.binary taking, nofun⟩

end ReadsExpressions

theorem readsExpressions (owns : r.operators.OwnsAliases) (budget : Nat) : ReadsExpressions r budget := by
  induction budget with
  | zero => constructor <;> intros <;> contradiction
  | succ budget reads =>
      exact ⟨reads.binary_succ, reads.climb_succ owns, reads.operands_succ, reads.unary_succ owns, reads.primary_succ,
        reads.trailers_succ, reads.arguments_succ, reads.items_succ⟩

theorem isExpression_of_expression (owns : r.operators.OwnsAliases) (reading : expression r c = .ok (tree, c')) :
    IsExpression r tree :=
  (readsExpressions owns c.budget).binary reading

end

/-- The core tag of a form. -/
def coreTag? : TagForm → Option TagDefinition
  | .print => some Core.printTag
  | .conditional => some Core.ifTag
  | .loop => some Core.forTag
  | .switch => some Core.switchTag
  | .assignment => some Core.setTag
  | .inclusion => some Core.includeTag
  | .nested => some Core.templateTag
  | .custom _ => none

theorem coreTag?_form : ∀ definition ∈ Core.tags, coreTag? definition.form = some definition := by
  decide

section

variable {s : Setting} {budget id line : Nat} {definition : TagDefinition} {tree : Tree} {c c' : Cursor}

theorem coreTag?_of_get? (core : s.registries.tags.IsCore)
    (numbered : s.registries.tags.get? id = some definition) : coreTag? definition.form = some definition :=
  coreTag?_form definition (core definition (List.mem_of_getElem? numbered))

theorem get?_printTag (core : s.registries.tags.IsCore) (known : s.printTag line = .ok id) :
    s.registries.tags.get? id = some Core.printTag := by
  rw [Setting.printTag] at known
  split at known
  · rename_i found
    cases known
    obtain ⟨tag, numbered, keyword⟩ := TagRegistry.get?_of_lookup? found
    have member : tag ∈ Core.tags := core tag (List.mem_of_getElem? numbered)
    have isPrint : ∀ tag ∈ Core.tags, tag.keyword = printKeyword → tag = Core.printTag := by decide
    rw [numbered, isPrint tag member keyword]
  · cases known

/-- What the readers of a template read with a budget has the shape of its kind. -/
structure ReadsStatements (s : Setting) (budget : Nat) : Prop where
  body : ∀ {c trees c'}, body s budget c = .ok (trees, c') → ∀ tree ∈ trees, IsStatement s.registries tree
  block : ∀ {line c tree c'}, block s budget line c = .ok (tree, c') → IsBody s.registries tree
  tag : ∀ {c tree c'}, tag s budget c = .ok (tree, c') → IsStatement s.registries tree
  tagRest : ∀ {id definition line c tree c'}, s.registries.tags.get? id = some definition →
    tagRest s budget id definition line c = .ok (tree, c') → IsStatement s.registries tree
  branches : ∀ {definition words c trees hasLast c'},
    branches s budget definition words false c = .ok ((trees, hasLast), c') →
    IsBranches s.registries words.test.isSome trees hasLast
  rest : ∀ {definition words c trees hasLast c'},
    Parse.branches s budget definition words true c = .ok ((trees, hasLast), c') → trees = [] ∧ hasLast = true

theorem isExpression_of_expressionTag {r : Registries} (owns : r.operators.OwnsAliases)
    (reading : expressionTag r c = .ok (tree, c')) : IsExpression r tree := by
  obtain ⟨⟨value, between⟩, taking, rest⟩ := bind_eq_ok.mp reading
  obtain ⟨⟨finish, last⟩, -, result⟩ := bind_eq_ok.mp rest
  cases result
  exact isExpression_of_expression owns taking

theorem isExpression_of_loopHeader {r : Registries} (owns : r.operators.OwnsAliases) {targets : LoopVariables}
    (reading : loopHeader r c = .ok ((targets, tree), c')) : IsExpression r tree := by
  rw [loopHeader] at reading
  dsimp only at reading
  obtain ⟨⟨names, between⟩, -, rest⟩ := bind_eq_ok.mp reading
  obtain ⟨⟨word, behind⟩, -, rest⟩ := bind_eq_ok.mp rest
  obtain ⟨⟨iterable, closing⟩, taking, rest⟩ := bind_eq_ok.mp rest
  have shape := isExpression_of_expression owns taking
  split at rest
  · obtain ⟨closed, -, rest⟩ := bind_eq_ok.mp rest
    obtain ⟨⟨finish, last⟩, -, result⟩ := bind_eq_ok.mp rest
    cases result
    exact shape
  · obtain ⟨closed, -, rest⟩ := bind_eq_ok.mp rest
    obtain ⟨⟨finish, last⟩, -, result⟩ := bind_eq_ok.mp rest
    cases result
    exact shape

theorem text?_notes_value (targets : LoopVariables) (hasElse : Bool) :
    (targets.notes hasElse).text? "value_var" = some targets.value := by
  obtain ⟨key, value⟩ := targets
  cases key <;> simp [LoopVariables.notes, Annotations.text?, Annotations.get?_set]

theorem text?_notes_key (targets : LoopVariables) (hasElse : Bool) :
    (targets.notes hasElse).text? "key_var" = targets.key := by
  obtain ⟨key, value⟩ := targets
  cases key with
  | none =>
      simp [LoopVariables.notes, Annotations.text?, Annotations.get?_set]
      rfl
  | some key => simp [LoopVariables.notes, Annotations.text?, Annotations.get?_set]

namespace ReadsStatements

theorem body_succ (core : s.registries.tags.IsCore) (owns : s.registries.operators.OwnsAliases)
    (reads : ReadsStatements s budget) {trees : List Tree} (reading : Parse.body s (budget + 1) c = .ok (trees, c')) :
    ∀ tree ∈ trees, IsStatement s.registries tree := by
  rw [Parse.body] at reading
  split at reading
  · split at reading
    · cases reading
    · cases reading
      exact fun _ member => absurd member List.not_mem_nil
  · obtain ⟨node, printing, rest⟩ := bind_eq_ok.mp reading
    obtain ⟨⟨later, behind⟩, going, result⟩ := bind_eq_ok.mp rest
    cases result
    obtain ⟨id, known, result⟩ := bind_eq_ok.mp printing
    cases result
    exact List.forall_mem_cons.mpr ⟨.text (get?_printTag core known) rfl, reads.body going⟩
  · obtain ⟨⟨node, between⟩, printing, rest⟩ := bind_eq_ok.mp reading
    obtain ⟨⟨later, behind⟩, going, result⟩ := bind_eq_ok.mp rest
    cases result
    obtain ⟨id, known, printing⟩ := bind_eq_ok.mp printing
    obtain ⟨⟨value, inner⟩, taking, printing⟩ := bind_eq_ok.mp printing
    obtain ⟨last, -, result⟩ := bind_eq_ok.mp printing
    cases result
    exact List.forall_mem_cons.mpr
      ⟨.print (get?_printTag core known) rfl (isExpression_of_expression owns taking), reads.body going⟩
  · dsimp only at reading
    split at reading
    · split at reading
      · cases reading
        exact fun _ member => absurd member List.not_mem_nil
      · cases reading
    · obtain ⟨⟨node, between⟩, tagging, rest⟩ := bind_eq_ok.mp reading
      obtain ⟨⟨later, behind⟩, going, result⟩ := bind_eq_ok.mp rest
      cases result
      exact List.forall_mem_cons.mpr ⟨reads.tag tagging, reads.body going⟩
  · cases reading

theorem block_succ (reads : ReadsStatements s budget) (reading : Parse.block s (budget + 1) line c = .ok (tree, c')) :
    IsBody s.registries tree := by
  rw [Parse.block] at reading
  obtain ⟨⟨children, behind⟩, going, result⟩ := bind_eq_ok.mp reading
  cases result
  exact .block (reads.body going)

theorem tag_succ (reads : ReadsStatements s budget) (reading : Parse.tag s (budget + 1) c = .ok (tree, c')) :
    IsStatement s.registries tree := by
  rw [Parse.tag] at reading
  obtain ⟨⟨start, between⟩, -, rest⟩ := bind_eq_ok.mp reading
  obtain ⟨⟨id, behind⟩, -, rest⟩ := bind_eq_ok.mp rest
  dsimp only at rest
  split at rest
  · cases rest
  · rename_i definition numbered
    split at rest
    · exact reads.tagRest numbered rest
    · cases rest

theorem branches_succ (owns : s.registries.operators.OwnsAliases) (reads : ReadsStatements s budget)
    {words : BranchWords} {trees : List Tree} {hasLast : Bool}
    (reading : Parse.branches s (budget + 1) definition words false c = .ok ((trees, hasLast), c')) :
    IsBranches s.registries words.test.isSome trees hasLast := by
  rw [Parse.branches] at reading
  obtain ⟨⟨keyword, between⟩, -, rest⟩ := bind_eq_ok.mp reading
  dsimp only at rest
  split at rest
  · rename_i isTest
    obtain ⟨⟨value, behind⟩, taking, rest⟩ := bind_eq_ok.mp rest
    obtain ⟨⟨content, after⟩, blocking, rest⟩ := bind_eq_ok.mp rest
    obtain ⟨⟨⟨later, flag⟩, last⟩, branching, result⟩ := bind_eq_ok.mp rest
    cases result
    have onward := reads.branches branching
    rw [isTest.1] at onward ⊢
    exact .test (isExpression_of_expressionTag owns taking) (reads.block blocking) onward
  split at rest
  · obtain ⟨⟨finish, behind⟩, -, rest⟩ := bind_eq_ok.mp rest
    obtain ⟨⟨content, after⟩, blocking, rest⟩ := bind_eq_ok.mp rest
    obtain ⟨⟨⟨later, flag⟩, last⟩, branching, result⟩ := bind_eq_ok.mp rest
    cases result
    obtain ⟨rfl, rfl⟩ := reads.rest branching
    exact .last (reads.block blocking)
  split at rest
  · obtain ⟨⟨finish, behind⟩, -, rest⟩ := bind_eq_ok.mp rest
    obtain ⟨last, -, result⟩ := bind_eq_ok.mp rest
    cases result
    exact .ending
  · cases rest

theorem rest_succ {words : BranchWords} {trees : List Tree} {hasLast : Bool}
    (reading : Parse.branches s (budget + 1) definition words true c = .ok ((trees, hasLast), c')) :
    trees = [] ∧ hasLast = true := by
  rw [Parse.branches] at reading
  obtain ⟨⟨keyword, between⟩, -, rest⟩ := bind_eq_ok.mp reading
  dsimp only at rest
  rw [if_neg (by simp), if_neg (by simp)] at rest
  split at rest
  · obtain ⟨⟨finish, behind⟩, -, rest⟩ := bind_eq_ok.mp rest
    obtain ⟨last, -, result⟩ := bind_eq_ok.mp rest
    cases result
    exact ⟨rfl, rfl⟩
  · cases rest

theorem tagRest_succ (core : s.registries.tags.IsCore) (owns : s.registries.operators.OwnsAliases)
    (reads : ReadsStatements s budget) (numbered : s.registries.tags.get? id = some definition)
    (reading : Parse.tagRest s (budget + 1) id definition line c = .ok (tree, c')) : IsStatement s.registries tree := by
  have isCore := coreTag?_of_get? core numbered
  rw [Parse.tagRest] at reading
  cases form : definition.form with
  | print =>
      rw [form] at reading isCore
      obtain rfl := Option.some.inj isCore
      obtain ⟨⟨value, behind⟩, taking, result⟩ := bind_eq_ok.mp reading
      cases result
      exact .print numbered rfl (isExpression_of_expressionTag owns taking)
  | inclusion =>
      rw [form] at reading isCore
      obtain rfl := Option.some.inj isCore
      obtain ⟨⟨value, behind⟩, taking, result⟩ := bind_eq_ok.mp reading
      cases result
      exact .inclusion numbered (isExpression_of_expressionTag owns taking)
  | assignment =>
      rw [form] at reading isCore
      obtain rfl := Option.some.inj isCore
      obtain ⟨⟨target, between⟩, -, rest⟩ := bind_eq_ok.mp reading
      obtain ⟨⟨sign, behind⟩, -, rest⟩ := bind_eq_ok.mp rest
      obtain ⟨⟨value, last⟩, taking, result⟩ := bind_eq_ok.mp rest
      cases result
      exact .assignment numbered rfl (isExpression_of_expressionTag owns taking)
  | conditional =>
      rw [form] at reading isCore
      obtain rfl := Option.some.inj isCore
      obtain ⟨⟨condition, between⟩, taking, rest⟩ := bind_eq_ok.mp reading
      obtain ⟨⟨first, behind⟩, blocking, rest⟩ := bind_eq_ok.mp rest
      obtain ⟨⟨⟨later, hasElse⟩, last⟩, branching, result⟩ := bind_eq_ok.mp rest
      cases result
      exact .conditional numbered (isExpression_of_expressionTag owns taking) (reads.block blocking)
        (reads.branches branching)
  | loop =>
      rw [form] at reading isCore
      obtain rfl := Option.some.inj isCore
      obtain ⟨⟨⟨targets, iterable⟩, between⟩, heading, rest⟩ := bind_eq_ok.mp reading
      obtain ⟨⟨first, behind⟩, blocking, rest⟩ := bind_eq_ok.mp rest
      obtain ⟨⟨⟨later, hasElse⟩, last⟩, branching, result⟩ := bind_eq_ok.mp rest
      cases result
      exact .loop numbered (isExpression_of_loopHeader owns heading) (reads.block blocking) (reads.branches branching)
        (text?_notes_value targets hasElse) (text?_notes_key targets hasElse)
  | switch =>
      rw [form] at reading isCore
      obtain rfl := Option.some.inj isCore
      obtain ⟨⟨subject, between⟩, taking, rest⟩ := bind_eq_ok.mp reading
      obtain ⟨behind, -, rest⟩ := bind_eq_ok.mp rest
      obtain ⟨⟨⟨later, hasDefault⟩, last⟩, branching, result⟩ := bind_eq_ok.mp rest
      cases result
      exact .switch numbered (isExpression_of_expressionTag owns taking) (reads.branches branching)
  | nested =>
      rw [form] at reading isCore
      obtain rfl := Option.some.inj isCore
      obtain ⟨⟨finish, between⟩, -, rest⟩ := bind_eq_ok.mp reading
      obtain ⟨⟨content, behind⟩, blocking, rest⟩ := bind_eq_ok.mp rest
      obtain ⟨⟨keyword, after⟩, -, rest⟩ := bind_eq_ok.mp rest
      obtain ⟨⟨ending, last⟩, -, rest⟩ := bind_eq_ok.mp rest
      obtain ⟨closed, -, result⟩ := bind_eq_ok.mp rest
      cases result
      exact .nested numbered rfl (reads.block blocking)
  | custom takesExpression =>
      rw [form] at isCore
      cases isCore

end ReadsStatements

theorem readsStatements (core : s.registries.tags.IsCore) (owns : s.registries.operators.OwnsAliases)
    (budget : Nat) : ReadsStatements s budget := by
  induction budget with
  | zero =>
      constructor
      all_goals
        intros
        simp_all only [Parse.body, Parse.block, Parse.tag, Parse.tagRest, Parse.branches, reduceCtorEq]
  | succ budget reads =>
      exact ⟨reads.body_succ core owns, reads.block_succ, reads.tag_succ, reads.tagRest_succ core owns,
        reads.branches_succ owns, ReadsStatements.rest_succ⟩

/-- Every template that is read with the core tags has the shape of one. -/
theorem isTemplate_of_template (core : s.registries.tags.IsCore) (owns : s.registries.operators.OwnsAliases)
    {tokens : List Token} (reading : template s tokens = .ok tree) : IsTemplate s.registries tree := by
  obtain ⟨⟨children, behind⟩, going, rest⟩ := bind_eq_ok.mp reading
  obtain ⟨last, -, result⟩ := bind_eq_ok.mp rest
  cases result
  exact .root ((readsStatements core owns _).body going)

end

end Parse

end Templating
