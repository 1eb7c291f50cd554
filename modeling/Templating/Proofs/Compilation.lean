import Templating.Proofs.Annotating
import Templating.Proofs.CoreExtension
import Templating.Proofs.LineWriting
import Mathlib.Data.List.Duplicate
import Mathlib.Data.List.Induction

/-! # Why a template that was read does not compile

Readers and compilers agree on the children and annotations of every core tag, and the core operators have
the operands that their strategies ask for. What is left are reasons that lie in the template: the names of
its nested templates, and numbers too large to be written.
-/

namespace Templating

/-- The trees right below a tree. -/
def Tree.children : Tree → List Tree
  | .root children _ _ => children
  | .block children _ _ => children
  | .tag _ children _ _ => children
  | .operator _ left middle right _ _ => left.toList ++ middle.toList ++ right.toList
  | .call _ receiver args _ _ => receiver.toList ++ args
  | .list items _ _ => items
  | .index base key _ _ => [base, key]
  | .data .. => []
  | .variable .. => []
  | .identifier .. => []
  | .missing _ => []

/-- A tree is a part of itself and of the trees above it. -/
inductive Tree.Holds : Tree → Tree → Prop
  | here {tree : Tree} : Holds tree tree
  | inside {tree child part : Tree} : child ∈ tree.children → Holds child part → Holds tree part

/-- A floating-point number is written somewhere in a tree. -/
def Tree.HoldsFloat (tree : Tree) (x : Float) : Prop :=
  ∃ line notes, tree.Holds (.data (.float x) line notes)

theorem Tree.HoldsFloat.inside {tree child : Tree} {x : Float} (holds : child.HoldsFloat x) (member : child ∈ tree.children) :
    tree.HoldsFloat x := by
  obtain ⟨line, notes, holds⟩ := holds
  exact ⟨line, notes, .inside member holds⟩

mutual

/-- The names of the nested templates of a tree, in the order in which they begin. -/
def Tree.nestedNames (r : Registries) : Tree → List String
  | .root children _ _ => nestedNamesAll r children
  | .block children _ _ => nestedNamesAll r children
  | .tag id children _ notes =>
      (if (r.tags.get? id).map (·.form) = some .nested then (notes.text? "name").toList else [])
        ++ nestedNamesAll r children
  | _ => []

def Tree.nestedNamesAll (r : Registries) : List Tree → List String
  | [] => []
  | tree :: trees => nestedNames r tree ++ nestedNamesAll r trees

end

namespace Compile

/-- The reasons for which a template is refused, given the names of its nested templates and the
floating-point numbers in it. -/
inductive Refusal (main : String) (names : List String) (literals : Float → Prop) : CompileCause → Prop
  | namedLikeMain : main ∈ names → Refusal main names literals (.badLayout (.definedTwice main))
  | namedTwice {name : String} : names.Duplicate name → Refusal main names literals (.badLayout (.definedTwice name))
  | sameType {name other : String} : name ∈ names → other ∈ names → name ≠ other →
      Code.nestedTypeName name = Code.nestedTypeName other →
      Refusal main names literals (.collision name other (Code.nestedTypeName name))
  | notFinite {x : Float} : literals x → x.isFinite = false →
      Refusal main names literals (.badLayout (.notFinite x))

theorem Refusal.mono {main : String} {names more : List String} {literals : Float → Prop} {cause : CompileCause}
    (refusal : Refusal main names literals cause) (fewer : names.Sublist more) : Refusal main more literals cause := by
  cases refusal with
  | namedLikeMain member => exact .namedLikeMain (fewer.subset member)
  | namedTwice twice => exact .namedTwice (twice.mono_sublist fewer)
  | sameType member other different same => exact .sameType (fewer.subset member) (fewer.subset other) different same
  | notFinite literal infinite => exact .notFinite literal infinite

/-- The operand in a slot. -/
def Operands.get (operands : Operands) : Slot → Except CompileError Code.Expr
  | .left => operands.left
  | .middle => operands.middle
  | .right => operands.right

end Compile

/-- Whether a strategy asks for the operand in a slot. -/
def Strategy.asks : Strategy → Slot → Bool
  | binary _, .left => true
  | binary _, .right => true
  | unary _, .right => true
  | test _, .left => true
  | isSet, .left => true
  | both, .left => true
  | both, .right => true
  | either, .left => true
  | either, .right => true
  | negation, .right => true
  | conditional, _ => true
  | negate positive, slot => positive.asks slot
  | _, _ => false

/-- All operators have the operands that their strategies ask for. -/
def OperatorRegistry.Fits (registry : OperatorRegistry) : Prop :=
  ∀ definition ∈ registry.definitions, ∀ slot, definition.strategy.asks slot = true → definition.arity.takes slot = true

namespace Compile

theorem strategy_error {operands : Operands} {chosen : Strategy} {e : CompileError}
    (refused : strategy operands chosen = .error e) :
    ∃ slot, chosen.asks slot = true ∧ operands.get slot = .error e := by
  induction chosen with
  | binary operation =>
      rcases bind_eq_error.mp refused with left | ⟨_, _, refused⟩
      · exact ⟨.left, rfl, left⟩
      rcases bind_eq_error.mp refused with right | ⟨_, _, ⟨⟩⟩
      exact ⟨.right, rfl, right⟩
  | unary operation =>
      rcases bind_eq_error.mp refused with right | ⟨_, _, ⟨⟩⟩
      exact ⟨.right, rfl, right⟩
  | test operation =>
      rcases bind_eq_error.mp refused with left | ⟨_, _, ⟨⟩⟩
      exact ⟨.left, rfl, left⟩
  | isSet =>
      rw [strategy] at refused
      split at refused
      · cases refused
      · rcases bind_eq_error.mp refused with left | ⟨_, _, ⟨⟩⟩
        exact ⟨.left, rfl, left⟩
  | both =>
      rcases bind_eq_error.mp refused with left | ⟨_, _, refused⟩
      · exact ⟨.left, rfl, left⟩
      rcases bind_eq_error.mp refused with right | ⟨_, _, ⟨⟩⟩
      exact ⟨.right, rfl, right⟩
  | either =>
      rcases bind_eq_error.mp refused with left | ⟨_, _, refused⟩
      · exact ⟨.left, rfl, left⟩
      rcases bind_eq_error.mp refused with right | ⟨_, _, ⟨⟩⟩
      exact ⟨.right, rfl, right⟩
  | negation =>
      rcases bind_eq_error.mp refused with right | ⟨_, _, ⟨⟩⟩
      exact ⟨.right, rfl, right⟩
  | conditional =>
      rcases bind_eq_error.mp refused with left | ⟨_, _, refused⟩
      · exact ⟨.left, rfl, left⟩
      rcases bind_eq_error.mp refused with middle | ⟨_, _, refused⟩
      · exact ⟨.middle, rfl, middle⟩
      rcases bind_eq_error.mp refused with right | ⟨_, _, ⟨⟩⟩
      exact ⟨.right, rfl, right⟩
  | negate positive ih =>
      rcases bind_eq_error.mp refused with inner | ⟨_, _, ⟨⟩⟩
      exact ih inner

section

variable {r : Registries} {tree : Tree} {e : CompileError}

theorem expressions_error {items : List Tree} (refused : expressions r items = .error e) :
    ∃ item ∈ items, expression r item = .error e := by
  induction items with
  | nil => cases refused
  | cons item items ih =>
      rw [expressions] at refused
      rcases bind_eq_error.mp refused with first | ⟨_, _, refused⟩
      · exact ⟨item, List.mem_cons_self, first⟩
      rcases bind_eq_error.mp refused with rest | ⟨_, _, ⟨⟩⟩
      obtain ⟨later, member, inner⟩ := ih rest
      exact ⟨later, List.mem_cons_of_mem _ member, inner⟩

/-- An error about a number in a tree that is not finite. -/
def NotFinite (tree : Tree) (e : CompileError) : Prop :=
  ∃ x, e.cause = .badLayout (.notFinite x) ∧ x.isFinite = false ∧ tree.HoldsFloat x

theorem NotFinite.below {child : Tree} (member : child ∈ tree.children) (refused : NotFinite child e) : NotFinite tree e := by
  obtain ⟨x, cause, infinite, holds⟩ := refused
  exact ⟨x, cause, infinite, holds.inside member⟩

theorem operand_error {operator : String} {slot : Slot} {line : Nat} {operand : Option Tree} (present : operand.isSome = true)
    (each : ∀ tree ∈ operand, ∀ e, expression r tree = .error e → NotFinite tree e)
    (refused : Compile.operand r operator slot line operand = .error e) : ∃ tree ∈ operand, NotFinite tree e := by
  cases operand with
  | none => cases present
  | some tree => exact ⟨tree, rfl, each tree rfl e (by rw [← refused, Compile.operand])⟩

theorem expression_error (fits : r.operators.Fits) (shape : Parse.IsExpression r tree) :
    ∀ e, expression r tree = .error e → NotFinite tree e := by
  induction shape with
  | @operator id line definition left middle right notes numbered lefts middles rights _ _ _ first second third =>
      intro e refused
      rw [expression, numbered] at refused
      obtain ⟨slot, asks, inner⟩ := strategy_error refused
      have takes := fits definition (List.mem_of_getElem? numbered) slot asks
      cases slot with
      | left =>
          obtain ⟨tree, member, infinite⟩ := operand_error (lefts.trans takes) first inner
          exact infinite.below (by simp [Tree.children, Option.mem_def.mp member])
      | middle =>
          obtain ⟨tree, member, infinite⟩ := operand_error (middles.trans takes) second inner
          exact infinite.below (by simp [Tree.children, Option.mem_def.mp member])
      | right =>
          obtain ⟨tree, member, infinite⟩ := operand_error (rights.trans takes) third inner
          exact infinite.below (by simp [Tree.children, Option.mem_def.mp member])
  | call numbered _ args =>
      intro e refused
      rw [expression] at refused
      rcases bind_eq_error.mp refused with inner | ⟨values, _, refused⟩
      · obtain ⟨arg, member, inner⟩ := expressions_error inner
        exact (args arg member e inner).below member
      · rw [call, numbered] at refused
        dsimp only at refused
        split at refused <;> cases refused
  | @named name receiver _ _ _ _ _ receivers args =>
      intro e refused
      cases receiver with
      | none =>
          rw [expression] at refused
          rcases bind_eq_error.mp refused with inner | ⟨_, _, ⟨⟩⟩
          obtain ⟨arg, member, inner⟩ := expressions_error inner
          exact (args arg member e inner).below member
      | some base =>
          rw [expression] at refused
          rcases bind_eq_error.mp refused with inner | ⟨_, _, refused⟩
          · obtain ⟨arg, member, inner⟩ := expressions_error inner
            exact (args arg member e inner).below (List.mem_append_right _ member)
          rcases bind_eq_error.mp refused with inner | ⟨_, _, refused⟩
          · exact (receivers base rfl e inner).below (List.mem_append_left _ List.mem_cons_self)
          obtain ⟨⟨⟩⟩ | ⟨_, _, ⟨⟩⟩ := bind_eq_error.mp refused
  | @data value line notes =>
      intro e refused
      rw [expression] at refused
      cases value with
      | float x =>
          rw [scalar] at refused
          split at refused
          · cases refused
          · rename_i infinite
            cases refused
            exact ⟨x, rfl, eq_false_of_ne_true infinite, line, notes, .here⟩
      | _ => cases refused
  | list _ items =>
      intro e refused
      rw [expression] at refused
      rcases bind_eq_error.mp refused with inner | ⟨_, _, ⟨⟩⟩
      obtain ⟨item, member, inner⟩ := expressions_error inner
      exact (items item member e inner).below member
  | name =>
      intro e refused
      rw [expression] at refused
      cases refused
  | index _ _ bases keys =>
      intro e refused
      rw [expression] at refused
      rcases bind_eq_error.mp refused with inner | ⟨_, _, refused⟩
      · exact (bases e inner).below List.mem_cons_self
      rcases bind_eq_error.mp refused with inner | ⟨_, _, ⟨⟩⟩
      exact (keys e inner).below (List.mem_cons_of_mem _ List.mem_cons_self)
  | field _ bases =>
      intro e refused
      rw [expression] at refused
      rcases bind_eq_error.mp refused with inner | ⟨_, _, refused⟩
      · exact (bases e inner).below List.mem_cons_self
      rcases bind_eq_error.mp refused with inner | ⟨_, _, ⟨⟩⟩
      cases inner

end

theorem nestedNames_eq_nil {r : Registries} {tree : Tree} (shape : Parse.IsExpression r tree) : tree.nestedNames r = [] := by
  cases shape <;> rw [Tree.nestedNames]
  all_goals nofun

/-- The nested templates that have begun, the last of them first. -/
def Progress.Begun (p : Progress) (names : List String) : Prop :=
  p.typeNames = names.reverse.map fun name => (Code.nestedTypeName name, name)

section

variable {α β : Type} {s : Setting} {p : Progress} {earlier names later : List String} {literals : Float → Prop}

/-- Compiling begins the nested templates with these names, or has a reason to stop. -/
def Accounts (s : Setting) (earlier names : List String) (literals : Float → Prop) :
    Except CompileError (α × Progress) → Prop
  | .ok (_, p) => p.Begun (earlier ++ names)
  | .error e => Refusal s.mainName (earlier ++ names) literals e.cause

theorem accounts_ok (begun : p.Begun earlier) (a : α) : Accounts s earlier [] literals (.ok (a, p)) := by
  rw [Accounts, List.append_nil]
  exact begun

theorem Accounts.bind {x : Except CompileError (α × Progress)} {f : α × Progress → Except CompileError (β × Progress)}
    (first : Accounts s earlier names literals x)
    (onward : ∀ a p, p.Begun (earlier ++ names) → Accounts s (earlier ++ names) later literals (f (a, p))) :
    Accounts s earlier (names ++ later) literals (x >>= f) := by
  cases x with
  | error e =>
      refine Refusal.mono first ?_
      rw [← List.append_assoc]
      exact List.sublist_append_left _ _
  | ok pair =>
      have next := onward pair.1 pair.2 first
      rw [ok_bind]
      cases outcome : f pair with
      | error e =>
          rw [outcome, Accounts, List.append_assoc] at next
          exact next
      | ok last =>
          rw [outcome, Accounts, List.append_assoc] at next
          exact next

theorem Accounts.map {x : Except CompileError (α × Progress)} {f : α × Progress → Except CompileError (β × Progress)}
    (first : Accounts s earlier names literals x)
    (keeps : ∀ a p, ∃ b p', f (a, p) = .ok (b, p') ∧ p'.typeNames = p.typeNames) :
    Accounts s earlier names literals (x >>= f) := by
  cases x with
  | error e => exact first
  | ok pair =>
      obtain ⟨b, p', outcome, same⟩ := keeps pair.1 pair.2
      rw [ok_bind, outcome]
      exact same.trans first

theorem accounts_expression {tree : Tree} (fits : s.registries.operators.Fits)
    (shape : Parse.IsExpression s.registries tree) (known : ∀ x, tree.HoldsFloat x → literals x)
    {f : Code.Expr → Except CompileError (β × Progress)} (onward : ∀ value, Accounts s earlier names literals (f value)) :
    Accounts s earlier names literals (expression s.registries tree >>= f) := by
  cases outcome : expression s.registries tree with
  | error e =>
      obtain ⟨x, cause, infinite, inside⟩ := expression_error fits shape e outcome
      rw [error_bind, Accounts, cause]
      exact .notFinite (known x inside) infinite
  | ok value =>
      rw [ok_bind]
      exact onward value

theorem Progress.Begun.of_lookup {typeName other : String} (begun : p.Begun names)
    (found : p.typeNames.lookup typeName = some other) : other ∈ names ∧ Code.nestedTypeName other = typeName := by
  rw [begun] at found
  obtain ⟨front, behind, split, -⟩ := List.lookup_eq_some_iff.mp found
  have member : (typeName, other) ∈ names.reverse.map fun name => (Code.nestedTypeName name, name) := by
    rw [split]
    exact List.mem_append_right _ List.mem_cons_self
  obtain ⟨name, inside, pair⟩ := List.mem_map.mp member
  cases pair
  exact ⟨List.mem_reverse.mp inside, rfl⟩

theorem beginNested_accounts (begun : p.Begun earlier) (name : String) (line : Nat)
    {f : Progress → Except CompileError (β × Progress)}
    (onward : ∀ p, p.Begun (earlier ++ [name]) → Accounts s (earlier ++ [name]) later literals (f p)) :
    Accounts s earlier (name :: later) literals (beginNested s name line p >>= f) := by
  have here : name ∈ earlier ++ name :: later := List.mem_append_right _ List.mem_cons_self
  rw [beginNested]
  split
  · rename_i taken
    rcases taken with rfl | found
    · exact .namedLikeMain here
    · obtain ⟨member, -⟩ := begun.of_lookup found
      refine Refusal.namedTwice (List.duplicate_iff_sublist.mpr ?_)
      exact (List.singleton_sublist.mpr member).append (List.singleton_sublist.mpr List.mem_cons_self)
  · rename_i free
    split
    · rename_i other found
      obtain ⟨member, same⟩ := begun.of_lookup found
      refine .sameType here (List.mem_append_left _ member) ?_ same.symm
      rintro rfl
      exact free (.inr found)
    · have next := onward { p with typeNames := (Code.nestedTypeName name, name) :: p.typeNames } (by
        rw [Progress.Begun, begun, List.reverse_append]
        rfl)
      rw [ok_bind]
      cases outcome : f { p with typeNames := (Code.nestedTypeName name, name) :: p.typeNames } with
      | error e =>
          rw [outcome, Accounts, List.append_assoc] at next
          exact next
      | ok last =>
          rw [outcome, Accounts, List.append_assoc] at next
          exact next

theorem statements_accounts {inLoop : Bool} {trees : List Tree}
    (each : ∀ tree ∈ trees, ∀ {earlier p}, p.Begun earlier →
      Accounts s earlier (tree.nestedNames s.registries) literals (statement s inLoop p tree))
    (begun : p.Begun earlier) :
    Accounts s earlier (Tree.nestedNamesAll s.registries trees) literals (statements s inLoop p trees) := by
  induction trees generalizing earlier p with
  | nil =>
      rw [statements, Tree.nestedNamesAll, Accounts, List.append_nil]
      exact begun
  | cons tree trees ih =>
      obtain ⟨first, rest⟩ := List.forall_mem_cons.mp each
      rw [statements, Tree.nestedNamesAll]
      refine (first begun).bind fun code p begun => ?_
      exact (ih rest begun).map fun code p => ⟨_, _, rfl, rfl⟩

theorem nestedNames_tag {r : Registries} {id line : Nat} {definition : TagDefinition} {children : List Tree}
    {notes : Annotations} (numbered : r.tags.get? id = some definition) (other : definition.form ≠ .nested) :
    (Tree.tag id children line notes).nestedNames r = Tree.nestedNamesAll r children := by
  rw [Tree.nestedNames, numbered, if_neg (by simpa using other)]
  rfl

theorem nestedNames_nested {r : Registries} {id line : Nat} {name : String} {children : List Tree} {notes : Annotations}
    (numbered : r.tags.get? id = some Core.templateTag) (named : notes.text? "name" = some name) :
    (Tree.tag id children line notes).nestedNames r = name :: Tree.nestedNamesAll r children := by
  rw [Tree.nestedNames, numbered, if_pos (by rfl), named]
  rfl

theorem nestedNamesAll_pair {r : Registries} {value content : Tree} (shape : Parse.IsExpression r value) (later : List Tree) :
    Tree.nestedNamesAll r (value :: content :: later) =
      content.nestedNames r ++ Tree.nestedNamesAll r later := by
  rw [Tree.nestedNamesAll, Tree.nestedNamesAll, nestedNames_eq_nil shape, List.nil_append]

end

/-- The numbers in the trees are among some. -/
def Among (literals : Float → Prop) (trees : List Tree) : Prop :=
  ∀ tree ∈ trees, ∀ x, tree.HoldsFloat x → literals x

theorem among_children {literals : Float → Prop} {tree : Tree} (known : ∀ x, tree.HoldsFloat x → literals x) :
    Among literals tree.children := by
  intro child member x holds
  exact known x (holds.inside member)

theorem length_of_isBranches {r : Registries} {tests hasLast : Bool} {trees : List Tree}
    (shape : Parse.IsBranches r tests trees hasLast) : ∃ pairs, trees.length = 2 * pairs + hasLast.toNat := by
  induction trees using List.twoStepInduction generalizing tests with
  | nil =>
      cases shape
      exact ⟨0, rfl⟩
  | singleton content =>
      cases shape
      exact ⟨0, rfl⟩
  | cons_cons value content later ih _ =>
      cases shape with
      | test _ _ rest =>
          obtain ⟨pairs, counted⟩ := ih rest
          exact ⟨pairs + 1, by simp only [List.length_cons]; omega⟩

theorem pairedCount_of_isBranches {r : Registries} {tests hasLast : Bool} {trees : List Tree}
    (shape : Parse.IsBranches r tests trees hasLast) :
    pairedCount hasLast trees % 2 = 0 ∧ (2 ≤ trees.length → pairedCount hasLast trees ≠ 0) := by
  obtain ⟨pairs, counted⟩ := length_of_isBranches shape
  rw [pairedCount]
  cases hasLast with
  | false =>
      rw [if_neg Bool.false_ne_true]
      rw [Bool.toNat_false] at counted
      omega
  | true =>
      rw [if_pos rfl]
      rw [Bool.toNat_true] at counted
      omega

theorem nestedNames_value {r : Registries} {id line : Nat} {definition : TagDefinition} {value : Tree} {notes : Annotations}
    (numbered : r.tags.get? id = some definition) (other : definition.form ≠ .nested) (shape : Parse.IsExpression r value) :
    (Tree.tag id [value] line notes).nestedNames r = [] := by
  rw [nestedNames_tag numbered other, Tree.nestedNamesAll, nestedNames_eq_nil shape, Tree.nestedNamesAll]
  rfl

mutual

theorem statement_accounts {s : Setting} (fits : s.registries.operators.Fits) {literals : Float → Prop} {inLoop : Bool}
    {tree : Tree} (shape : Parse.IsStatement s.registries tree) (known : ∀ x, tree.HoldsFloat x → literals x)
    {earlier : List String} {p : Progress} (begun : p.Begun earlier) :
    Accounts s earlier (tree.nestedNames s.registries) literals (statement s inLoop p tree) := by
  have among := among_children known
  cases shape with
  | text numbered text =>
      rw [nestedNames_value numbered (by decide) .data, statement, numbered]
      dsimp only [Core.printTag]
      rw [print, onlyChild, ok_bind, if_pos text]
      exact accounts_ok begun _
  | print numbered output value =>
      rw [nestedNames_value numbered (by decide) value, statement, numbered]
      dsimp only [Core.printTag]
      rw [print, onlyChild, ok_bind, output, if_neg Bool.false_ne_true, bind_assoc]
      refine accounts_expression fits value (among _ List.mem_cons_self) fun value => ?_
      split
      · exact accounts_ok begun _
      · exact accounts_ok begun _
  | inclusion numbered value =>
      rw [nestedNames_value numbered (by decide) value, statement, numbered]
      refine accounts_expression fits value (among _ List.mem_cons_self) fun value => ?_
      exact accounts_ok (p := p.reserve 1) begun _
  | assignment numbered named value =>
      rw [nestedNames_value numbered (by decide) value, statement, numbered]
      dsimp only [Core.setTag]
      rw [assignment, onlyChild, ok_bind, named]
      refine accounts_expression fits value (among _ List.mem_cons_self) fun value => ?_
      exact accounts_ok (p := p.reserve 1) begun _
  | conditional numbered condition content later =>
      have all : Parse.IsBranches _ true _ _ := .test condition content later
      obtain ⟨even, some⟩ := pairedCount_of_isBranches all
      have some := some (Nat.le_add_left 2 _)
      rw [nestedNames_tag numbered (by decide), statement, numbered]
      dsimp only [Core.ifTag]
      rw [if_neg (by omega)]
      exact (branches_accounts fits all among .holds begun).map fun chain p => ⟨_, _, rfl, rfl⟩
  | loop numbered iterable content later value key =>
      rw [nestedNames_tag numbered (by decide), nestedNamesAll_pair iterable, statement, numbered]
      dsimp only [Core.forTag]
      obtain ⟨first, rest⟩ := List.forall_mem_cons.mp among
      obtain ⟨second, rest⟩ := List.forall_mem_cons.mp rest
      have renumbered : ∀ next, { p with nextLocal := next }.Begun earlier := fun _ => begun
      cases later with
      | ending =>
          rw [loopPlan, if_pos (.inl rfl), value, ok_bind, loop, Tree.nestedNamesAll, List.append_nil]
          refine accounts_expression fits iterable first fun iterable => ?_
          exact (body_accounts fits content second (renumbered _)).map fun code p => ⟨_, _, rfl, rfl⟩
      | last otherwise =>
          rw [loopPlan, if_pos (.inr rfl), value, ok_bind, loop, Tree.nestedNamesAll, Tree.nestedNamesAll, List.append_nil]
          refine accounts_expression fits iterable first fun iterable => ?_
          refine (body_accounts fits content second (renumbered _)).bind fun code p begun => ?_
          exact (body_accounts fits otherwise (rest _ List.mem_cons_self) begun).map fun code p => ⟨_, _, rfl, rfl⟩
  | switch numbered subject later =>
      obtain ⟨even, -⟩ := pairedCount_of_isBranches later
      rw [nestedNames_tag numbered (by decide), Tree.nestedNamesAll, nestedNames_eq_nil subject, List.nil_append, statement,
        numbered]
      dsimp only [Core.switchTag]
      obtain ⟨first, rest⟩ := List.forall_mem_cons.mp among
      rw [switch, if_neg (by omega)]
      refine accounts_expression fits subject first fun value => ?_
      exact (branches_accounts (p := p.reserve 1) fits later rest _ begun).map fun chain p => ⟨_, _, rfl, rfl⟩
  | nested numbered named content =>
      rw [nestedNames_nested numbered named, Tree.nestedNamesAll, Tree.nestedNamesAll, List.append_nil, statement, numbered]
      dsimp only [Core.templateTag]
      rw [named, nested]
      refine beginNested_accounts begun _ _ fun p begun => ?_
      exact (body_accounts fits content (among _ List.mem_cons_self) begun).map fun code p => ⟨_, _, rfl, rfl⟩
termination_by sizeOf tree

theorem body_accounts {s : Setting} (fits : s.registries.operators.Fits) {literals : Float → Prop} {inLoop : Bool}
    {tree : Tree} (shape : Parse.IsBody s.registries tree) (known : ∀ x, tree.HoldsFloat x → literals x)
    {earlier : List String} {p : Progress} (begun : p.Begun earlier) :
    Accounts s earlier (tree.nestedNames s.registries) literals (statement s inLoop p tree) := by
  have among := among_children known
  obtain ⟨statements⟩ := shape
  rw [statement, Tree.nestedNames]
  refine statements_accounts (fun tree member earlier p begun => ?_) begun
  have smaller := List.sizeOf_lt_of_mem member
  exact statement_accounts fits (statements tree member) (among tree member) begun
termination_by sizeOf tree

theorem branches_accounts {s : Setting} (fits : s.registries.operators.Fits) {literals : Float → Prop} {inLoop : Bool}
    {tests hasLast : Bool} {trees : List Tree} (shape : Parse.IsBranches s.registries tests trees hasLast)
    (known : Among literals trees) (test : Code.Expr → Code.Test) {earlier : List String} {p : Progress}
    (begun : p.Begun earlier) :
    Accounts s earlier (Tree.nestedNamesAll s.registries trees) literals (branches s inLoop test p trees) := by
  cases shape with
  | ending =>
      rw [branches, Tree.nestedNamesAll, Accounts, List.append_nil]
      exact begun
  | last content =>
      rw [branches, Tree.nestedNamesAll, Tree.nestedNamesAll, List.append_nil]
      exact (body_accounts fits content (known _ List.mem_cons_self) begun).map fun code p => ⟨_, _, rfl, rfl⟩
  | test value content later =>
      obtain ⟨first, rest⟩ := List.forall_mem_cons.mp known
      obtain ⟨second, rest⟩ := List.forall_mem_cons.mp rest
      rw [branches, nestedNamesAll_pair value]
      refine accounts_expression fits value first fun value => ?_
      refine (body_accounts fits content second begun).bind fun code p begun => ?_
      exact (branches_accounts fits later rest test begun).map fun chain p => ⟨_, _, rfl, rfl⟩
termination_by sizeOf trees

end

end Compile

namespace Remarked

variable {r : Registries}

theorem toList_rel {tree annotated : Option Tree} (same : Option.Rel (Remarked r) tree annotated) :
    List.Forall₂ (Remarked r) tree.toList annotated.toList := by
  cases same with
  | none => exact .nil
  | some first => exact .cons first .nil

theorem children {tree annotated : Tree} (same : Remarked r tree annotated) :
    List.Forall₂ (Remarked r) tree.children annotated.children := by
  cases same with
  | root children => exact children
  | block children => exact children
  | tag children _ _ => exact children
  | operator left middle right =>
      exact List.rel_append (List.rel_append (toList_rel left) (toList_rel middle)) (toList_rel right)
  | call receiver args => exact List.rel_append (toList_rel receiver) args
  | data => exact .nil
  | list items => exact items
  | name => exact .nil
  | identifier => exact .nil
  | index base key => exact .cons base (.cons key .nil)
  | missing => exact .nil

mutual

theorem nestedNames_eq {tree annotated : Tree} (same : Remarked r tree annotated) :
    annotated.nestedNames r = tree.nestedNames r := by
  cases same with
  | root children =>
      rw [Tree.nestedNames, Tree.nestedNames, nestedNamesAll_eq children]
  | block children =>
      rw [Tree.nestedNames, Tree.nestedNames, nestedNamesAll_eq children]
  | tag children alike _ =>
      rw [Tree.nestedNames, Tree.nestedNames, nestedNamesAll_eq children, alike.text? (by decide)]
  | operator | call | data | list | name | identifier | index | missing =>
      simp only [Tree.nestedNames]
termination_by sizeOf tree

theorem nestedNamesAll_eq {trees annotated : List Tree} (same : List.Forall₂ (Remarked r) trees annotated) :
    Tree.nestedNamesAll r annotated = Tree.nestedNamesAll r trees := by
  cases same with
  | nil => rfl
  | cons first rest => rw [Tree.nestedNamesAll, Tree.nestedNamesAll, nestedNames_eq first, nestedNamesAll_eq rest]
termination_by sizeOf trees

end

end Remarked

/-- An extension that contributes functions only. -/
def Extension.IsFunctional (extension : Extension) : Prop :=
  extension.operators = [] ∧ extension.tags = []

namespace Compiler

variable {config : Config} {loader : Loader} {extensions : List Extension} {c : Compiler}

theorem of_build (built : Compiler.build config loader extensions = .ok c) :
    c.config = config ∧ c.optimizer = .standard ∧ Registries.build (Core.extension :: extensions) = .ok c.registries := by
  obtain ⟨-, registries, registered, rfl⟩ := build_eq_ok built
  exact ⟨rfl, rfl, registered⟩

/-- The tree that is compiled is the tree that was read, up to marks, and has its shape. -/
theorem optimize_ofTree_of_core (core : c.registries.tags.IsCore) (owns : c.registries.operators.OwnsAliases)
    (default : c.optimizer.IsDefault) {fallback : Option String} {tokens : List Token} {tree : Tree}
    (parsed : Parse.template ⟨c.registries, fallback⟩ tokens = .ok tree) :
    ∃ annotated, (c.optimize (.ofTree tree)).toTree? = some annotated ∧ Remarked c.registries tree annotated ∧
      Parse.IsTemplate c.registries tree ∧ Parse.IsTemplate c.registries annotated := by
  have shape := Parse.isTemplate_of_template core owns parsed
  obtain ⟨annotated, compiled, same⟩ := default.remarked shape.sound
  exact ⟨annotated, compiled, same, shape, shape.remarked same⟩

theorem optimize_ofTree (built : Compiler.build config loader extensions = .ok c)
    (functional : ∀ extension ∈ extensions, extension.IsFunctional) {fallback : Option String} {tokens : List Token}
    {tree : Tree} (parsed : Parse.template ⟨c.registries, fallback⟩ tokens = .ok tree) :
    ∃ annotated, (c.optimize (.ofTree tree)).toTree? = some annotated ∧ Remarked c.registries tree annotated ∧
      Parse.IsTemplate c.registries tree ∧ Parse.IsTemplate c.registries annotated := by
  obtain ⟨-, passes, registered⟩ := of_build built
  have core : c.registries.tags.IsCore :=
    TagRegistry.isCore_of_build registered fun extension member => (functional extension member).2
  exact optimize_ofTree_of_core core (Registries.ownsAliases_operators registered)
    (passes ▸ Optimizer.isDefault_standard) parsed

theorem parse_of_lexed {source : String} {tokens : List Token} (lexed : Source.tokenize c.vocabulary source = .ok tokens)
    (name : String) :
    c.parse name source =
      match Parse.template ⟨c.registries, c.config.fallbackTag⟩ tokens with
      | .ok tree => .ok (.ofTree tree)
      | .error e => .error (.parse name e) := by
  rw [parse, tokenize, lexed, ok_bind, Parse.arena_eq]
  cases Parse.template ⟨c.registries, c.config.fallbackTag⟩ tokens <;> rfl

theorem compileModule_of_parsed {name source : String} {tokens : List Token} {tree : Tree}
    (lexed : Source.tokenize c.vocabulary source = .ok tokens)
    (parsed : Parse.template ⟨c.registries, c.config.fallbackTag⟩ tokens = .ok tree) :
    c.compileModule name source =
      match Compile.template { registries := c.registries, mainName := name } (c.optimize (.ofTree tree)).toTree? with
      | .ok compiled => .ok compiled
      | .error e => .error (.compile name e) := by
  rw [compileModule, parse_of_lexed lexed, parsed]
  rfl

/-- The letters of a source are looked at one by one. A text computes slowly, so it is spelled out before it is tokenized. -/
theorem tokenize_letters {v : Vocabulary} {source : String} {letters : List Char} (spelled : source.toList = letters) :
    Source.tokenize v source =
      Source.scan Source.wordBehind v ((Source.openers v.delimiters).map fun opener => { opener := opener }) 0 1 false
        letters := by
  rw [Source.tokenize, Source.tokenizeBy, spelled]

/-- The result of compiling a source, by its letters and in stages. -/
theorem compileModule_letters {name source : String} {letters : List Char} (spelled : source.toList = letters)
    (c : Compiler) :
    (c.compileModule name source).toOption = (do
      let tokens ← (Source.scan Source.wordBehind c.vocabulary
        ((Source.openers c.vocabulary.delimiters).map fun opener => { opener := opener }) 0 1 false letters).toOption
      let tree ← (Parse.template ⟨c.registries, c.config.fallbackTag⟩ tokens).toOption
      (Compile.template ⟨c.registries, name⟩ (c.optimize (.ofTree tree)).toTree?).toOption) := by
  rw [← tokenize_letters spelled]
  cases lexed : Source.tokenize c.vocabulary source with
  | error e =>
      rw [compileModule, parse, tokenize, lexed]
      rfl
  | ok tokens =>
      have staged : (Except.ok tokens : Except Source.LexError _).toOption = some tokens := rfl
      rw [staged, Option.bind_eq_bind, Option.bind_some]
      cases parsed : Parse.template ⟨c.registries, c.config.fallbackTag⟩ tokens with
      | error e =>
          rw [compileModule, parse_of_lexed lexed, parsed]
          rfl
      | ok tree =>
          rw [compileModule_of_parsed lexed parsed]
          dsimp only [Except.toOption, Option.bind_eq_bind, Option.bind_some]
          cases Compile.template ⟨c.registries, name⟩ (c.optimize (.ofTree tree)).toTree? with
          | error e => rfl
          | ok unit => rfl

def shoutExtension : Extension where
  name := "tools"
  functions := [{ name := "shout", invocation := .simple "tools::shout" }]

end Compiler

end Templating
