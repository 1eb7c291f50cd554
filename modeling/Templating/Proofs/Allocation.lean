import Templating.Parse.Allocation
import Templating.Proofs.Outcome

/-! # The arena of a tree that is read

Each reader that adds nodes to an arena does what the reader of trees does, and the arena behind it is the one with those
trees added. A base behind which a trailer stands, and the left operand of an operator, are in the arena before it is known
what owns them, so the readers of these are started behind the tree of theirs.
-/

namespace Templating.Parse

namespace Allocation

/-- A tree that was read, added to an arena. -/
def added (a : Arena) (read : Tree × Cursor) : (NodeId × Arena) × Cursor :=
  (a.add read.1, read.2)

/-- Trees that were read, added to an arena in order. -/
def addedAll (a : Arena) (read : List Tree × Cursor) : (List NodeId × Arena) × Cursor :=
  (a.addAll read.1, read.2)

/-- The trees of branches, added to an arena in order. -/
def addedBranches (a : Arena) (read : (List Tree × Bool) × Cursor) : ((List NodeId × Bool) × Arena) × Cursor :=
  ((((a.addAll read.1.1).1, read.1.2), (a.addAll read.1.1).2), read.2)

theorem callee_function (r : Registries) (name : String) : callee r name none = Parse.callee r name none := by
  simp only [callee, Parse.callee]
  cases r.functions.lookup? name <;> rfl

mutual

theorem binary_eq (r : Registries) (budget : Nat) (least : UInt8) (a : Arena) (c : Cursor) :
    binary r budget least a c = (Parse.binary r budget least c).map (added a) := by
  cases budget with
  | zero => rfl
  | succ budget =>
      rw [binary, Parse.binary, unary_eq]
      apply map_bind_alike
      intro left
      exact climb_eq r budget least left.1 none a left.2

theorem climb_eq (r : Registries) (budget : Nat) (least : UInt8) (left : Tree) (earlier : Option (UInt8 × String))
    (a : Arena) (c : Cursor) :
    climb r budget least (a.add left).1 earlier (a.add left).2 c =
      (Parse.climb r budget least left earlier c).map (added a) := by
  cases budget with
  | zero => rfl
  | succ budget =>
      rw [climb, Parse.climb]
      cases r.operators.binaryAt? c.stream.remaining with
      | none =>
          dsimp only
          split <;> rfl
      | some found =>
          dsimp only
          split
          · rfl
          · cases earlier.filter fun pair => pair.1 == found.definition.precedence with
            | some pair => rfl
            | none =>
                dsimp only
                rw [operands_eq]
                apply map_bind_alike
                intro node
                exact climb_eq r budget least node.1 _ a node.2

theorem operands_eq (r : Registries) (budget : Nat) (found : OperatorRegistry.Found) (left : Tree) (line : Nat) (a : Arena)
    (c : Cursor) :
    operands r budget found (a.add left).1 line (a.add left).2 c =
      (Parse.operands r budget found left line c).map (added a) := by
  cases budget with
  | zero => rfl
  | succ budget =>
      rw [operands, Parse.operands]
      cases found.definition.arity with
      | binary =>
          dsimp only
          rw [binary_eq]
          exact map_bind_alike fun right => rfl
      | test takesArgument =>
          cases takesArgument with
          | true =>
              dsimp only
              rw [binary_eq]
              exact map_bind_alike fun right => rfl
          | false => rfl
      | ternary =>
          dsimp only
          rw [binary_eq]
          apply map_bind_alike
          intro middle
          apply bind_alike
          intro colon
          dsimp only [added]
          rw [binary_eq]
          exact map_bind_alike fun right => rfl
      | unaryPrefix => rfl

theorem unary_eq (r : Registries) (budget : Nat) (a : Arena) (c : Cursor) :
    unary r budget a c = (Parse.unary r budget c).map (added a) := by
  cases budget with
  | zero => rfl
  | succ budget =>
      rw [unary, Parse.unary]
      cases r.operators.unaryAt? c.stream.remaining with
      | some found =>
          dsimp only
          rw [binary_eq]
          exact map_bind_alike fun operand => rfl
      | none =>
          dsimp only
          rw [primary_eq]
          apply map_bind_alike
          intro base
          exact trailers_eq r budget base.1 a base.2

theorem primary_eq (r : Registries) (budget : Nat) (a : Arena) (c : Cursor) :
    primary r budget a c = (Parse.primary r budget c).map (added a) := by
  cases budget with
  | zero => rfl
  | succ budget =>
      rw [primary, Parse.primary]
      dsimp only
      split_ifs with isLiteral isString named called grouped listed
      · exact bind_alike fun value => rfl
      · rfl
      · rw [arguments_eq, callee_function]
        exact map_bind_alike fun args => rfl
      · rfl
      · rw [binary_eq]
        apply map_bind_alike
        intro inner
        exact bind_alike fun behind => rfl
      · rw [arguments_eq]
        exact map_bind_alike fun items => rfl
      · rfl

theorem trailers_eq (r : Registries) (budget : Nat) (base : Tree) (a : Arena) (c : Cursor) :
    trailers r budget (a.add base).1 (a.add base).2 c = (Parse.trailers r budget base c).map (added a) := by
  cases budget with
  | zero => rfl
  | succ budget =>
      rw [trailers, Parse.trailers]
      dsimp only
      split_ifs with indexed dotted named called digits
      · rw [binary_eq]
        apply map_bind_alike
        intro key
        apply bind_alike
        intro behind
        exact trailers_eq r budget (.index base key.1 c.current.line {}) a behind
      · rw [arguments_eq]
        apply map_bind_alike
        intro args
        exact trailers_eq r budget
          (.call (Parse.callee r c.next.current.value (some base)) (some base) args.1 c.next.current.line {}) a args.2
      · exact trailers_eq r budget
          (.index base (.identifier c.next.current.value c.next.current.line {}) c.current.line {}) a c.next.next
      · apply bind_alike
        intro value
        exact trailers_eq r budget (.index base (.data value c.next.current.line {}) c.current.line {}) a c.next.next
      · rfl
      · rfl

theorem arguments_eq (r : Registries) (budget : Nat) (label : String) (closer : TokenPattern) (a : Arena) (c : Cursor) :
    arguments r budget label closer a c = (Parse.arguments r budget label closer c).map (addedAll a) := by
  cases budget with
  | zero => rfl
  | succ budget =>
      rw [arguments, Parse.arguments, items_eq]
      apply map_bind_alike
      intro items
      exact bind_alike fun behind => rfl

theorem items_eq (r : Registries) (budget : Nat) (closer : TokenPattern) (a : Arena) (c : Cursor) :
    items r budget closer a c = (Parse.items r budget closer c).map (addedAll a) := by
  cases budget with
  | zero => rfl
  | succ budget =>
      rw [items, Parse.items]
      split
      · rfl
      · rw [binary_eq]
        apply map_bind_alike
        intro item
        dsimp only [added]
        split
        · rw [items_eq]
          exact map_bind_alike fun later => rfl
        · rfl

end

section

variable (r : Registries) (s : Setting) (a : Arena) (c : Cursor)

theorem expression_eq : expression r a c = (Parse.expression r c).map (added a) :=
  binary_eq r c.budget 0 a c

theorem expressionTag_eq : expressionTag r a c = (Parse.expressionTag r c).map (added a) := by
  rw [expressionTag, Parse.expressionTag, expression_eq]
  apply map_bind_alike
  intro value
  exact bind_alike fun behind => rfl

theorem textNode_eq (text : Token) : textNode s text a = (Parse.textNode s text).map a.add :=
  bind_alike fun _ => rfl

theorem output_eq : output s a c = (Parse.output s c).map (added a) := by
  rw [output, Parse.output]
  apply bind_alike
  intro id
  rw [expression_eq]
  apply map_bind_alike
  intro value
  exact bind_alike fun behind => rfl

theorem loopHeader_eq :
    loopHeader r a c =
      (Parse.loopHeader r c).map fun read => ((read.1.1, (a.add read.1.2).1, (a.add read.1.2).2), read.2) := by
  rw [loopHeader, Parse.loopHeader]
  dsimp only
  apply bind_alike
  intro targets
  apply bind_alike
  rintro ⟨word, behind⟩
  dsimp only
  rw [expression_eq]
  apply map_bind_alike
  intro iterable
  split
  · apply bind_alike
    intro behind
    exact bind_alike fun last => rfl
  · exact bind_alike (x := tagEnd iterable.2) fun last => rfl

end

theorem addAll_append (a : Arena) (first second : List Tree) :
    a.addAll (first ++ second) =
      ((a.addAll first).1 ++ ((a.addAll first).2.addAll second).1, ((a.addAll first).2.addAll second).2) := by
  induction first generalizing a with
  | nil => rfl
  | cons tree rest ih => simp [Arena.addAll, ih]

mutual

theorem body_eq (s : Setting) (budget : Nat) (a : Arena) (c : Cursor) :
    body s budget a c = (Parse.body s budget c).map (addedAll a) := by
  cases budget with
  | zero =>
      rw [Parse.body]
      rfl
  | succ budget =>
      rw [body, Parse.body]
      generalize c.current.kind = kind
      cases kind with
      | eof =>
          dsimp only
          cases c.opened.head?.filter fun top => top.kind != .text <;> rfl
      | text =>
          dsimp only
          rw [textNode_eq]
          apply map_bind_alike
          intro node
          rw [body_eq]
          exact map_bind_alike fun later => rfl
      | expressionStart =>
          dsimp only
          rw [output_eq]
          apply map_bind_alike
          intro node
          dsimp only [added]
          rw [body_eq]
          exact map_bind_alike fun later => rfl
      | tagStart =>
          dsimp only
          split
          · split <;> rfl
          · rw [tag_eq]
            apply map_bind_alike
            intro node
            dsimp only [added]
            rw [body_eq]
            exact map_bind_alike fun later => rfl
      | _ => rfl

theorem block_eq (s : Setting) (budget : Nat) (line : Nat) (a : Arena) (c : Cursor) :
    block s budget line a c = (Parse.block s budget line c).map (added a) := by
  cases budget with
  | zero =>
      rw [Parse.block]
      rfl
  | succ budget =>
      rw [block, Parse.block, body_eq]
      exact map_bind_alike fun children => rfl

theorem tag_eq (s : Setting) (budget : Nat) (a : Arena) (c : Cursor) :
    tag s budget a c = (Parse.tag s budget c).map (added a) := by
  cases budget with
  | zero =>
      rw [Parse.tag]
      rfl
  | succ budget =>
      rw [tag, Parse.tag]
      apply bind_alike
      intro start
      apply bind_alike
      intro resolved
      dsimp only
      cases s.registries.tags.get? resolved.1 with
      | none => rfl
      | some definition =>
          dsimp only
          split
          · exact tagRest_eq s budget resolved.1 definition start.1.line a resolved.2
          · rfl

theorem tagRest_eq (s : Setting) (budget : Nat) (id : Nat) (definition : TagDefinition) (line : Nat) (a : Arena)
    (c : Cursor) :
    tagRest s budget id definition line a c = (Parse.tagRest s budget id definition line c).map (added a) := by
  cases budget with
  | zero =>
      rw [Parse.tagRest]
      rfl
  | succ budget =>
      rw [tagRest, Parse.tagRest]
      cases definition.form with
      | print | inclusion =>
          dsimp only
          rw [expressionTag_eq]
          exact map_bind_alike fun value => rfl
      | assignment =>
          apply bind_alike
          intro target
          apply bind_alike
          rintro ⟨sign, c⟩
          dsimp only
          rw [expressionTag_eq]
          exact map_bind_alike fun value => rfl
      | conditional =>
          dsimp only
          rw [expressionTag_eq]
          apply map_bind_alike
          intro condition
          dsimp only [added]
          rw [block_eq]
          apply map_bind_alike
          intro first
          dsimp only [added]
          rw [branches_eq]
          exact map_bind_alike fun later => rfl
      | loop =>
          dsimp only
          rw [loopHeader_eq]
          apply map_bind_alike
          intro header
          dsimp only
          rw [block_eq]
          apply map_bind_alike
          intro first
          dsimp only [added]
          rw [branches_eq]
          exact map_bind_alike fun later => rfl
      | switch =>
          dsimp only
          rw [expressionTag_eq]
          apply map_bind_alike
          intro subject
          apply bind_alike
          intro behind
          dsimp only [added]
          rw [branches_eq]
          exact map_bind_alike fun later => rfl
      | nested =>
          apply bind_alike
          rintro ⟨opened, c⟩
          dsimp only
          rw [block_eq]
          apply map_bind_alike
          intro content
          apply bind_alike
          intro keyword
          apply bind_alike
          intro last
          exact bind_alike fun closed => rfl
      | custom takesExpression =>
          -- What stands behind the values is read alike, whether there is one or none.
          have behind (values : List Tree) (c : Cursor) :
              (do
                let (_, c) ← tagEnd c
                match definition.ending with
                | none => return ((a.addAll values).2.push (.tag id (a.addAll values).1) line {}, c)
                | some ending => do
                  let ((later, a'), c) ←
                    customBranches s budget definition ending line (a.addAll values).2 (openBlock definition line c)
                  return (a'.push (.tag id ((a.addAll values).1 ++ later)) line {}, c) : Reading) =
                (do
                  let (_, c) ← tagEnd c
                  match definition.ending with
                  | none => return (.tag id values line {}, c)
                  | some ending => do
                    let (later, c) ← Parse.customBranches s budget definition ending line (openBlock definition line c)
                    return (.tag id (values ++ later) line {}, c) : Except ParseError (Tree × Cursor)).map (added a) := by
            apply bind_alike
            rintro ⟨last, c⟩
            cases definition.ending with
            | none => rfl
            | some ending =>
                dsimp only
                rw [customBranches_eq]
                apply map_bind_alike
                intro later
                simp [added, addedAll, Arena.add, addAll_append, Except.map]
          cases takesExpression with
          | false => exact behind [] c
          | true =>
              dsimp only
              rw [if_pos rfl, if_pos rfl, expression_eq]
              apply map_bind_alike
              intro value
              exact behind [value.1] value.2

theorem branches_eq (s : Setting) (budget : Nat) (definition : TagDefinition) (words : BranchWords) (hasLast : Bool)
    (a : Arena) (c : Cursor) :
    branches s budget definition words hasLast a c =
      (Parse.branches s budget definition words hasLast c).map (addedBranches a) := by
  cases budget with
  | zero =>
      rw [Parse.branches]
      rfl
  | succ budget =>
      rw [branches, Parse.branches]
      apply bind_alike
      intro keyword
      dsimp only
      split_ifs
      · rw [expressionTag_eq]
        apply map_bind_alike
        intro value
        dsimp only [added]
        rw [block_eq]
        apply map_bind_alike
        intro content
        dsimp only [added]
        rw [branches_eq]
        exact map_bind_alike fun later => rfl
      · apply bind_alike
        rintro ⟨last, c⟩
        rw [block_eq]
        apply map_bind_alike
        intro content
        dsimp only [added]
        rw [branches_eq]
        exact map_bind_alike fun later => rfl
      · apply bind_alike
        intro last
        exact bind_alike fun closed => rfl
      · rfl

theorem customBranches_eq (s : Setting) (budget : Nat) (definition : TagDefinition) (ending : String) (line : Nat)
    (a : Arena) (c : Cursor) :
    customBranches s budget definition ending line a c =
      (Parse.customBranches s budget definition ending line c).map (addedAll a) := by
  cases budget with
  | zero =>
      rw [Parse.customBranches]
      rfl
  | succ budget =>
      rw [customBranches, Parse.customBranches, block_eq]
      apply map_bind_alike
      intro content
      apply bind_alike
      intro keyword
      apply bind_alike
      intro last
      dsimp only
      split
      · exact bind_alike fun closed => rfl
      · rw [customBranches_eq]
        exact map_bind_alike fun later => rfl

end

end Allocation

/-- What is read into an arena is the arena of the tree that is read. -/
theorem arena_eq (s : Setting) (tokens : List Token) : arena s tokens = (template s tokens).map .ofTree := by
  rw [arena, template]
  simp only [Allocation.body_eq]
  apply map_bind_alike
  intro children
  exact bind_alike fun closed => rfl

theorem arena_eq_ok_iff {s : Setting} {tokens : List Token} {filled : Arena} :
    arena s tokens = .ok filled ↔ ∃ tree, template s tokens = .ok tree ∧ filled = .ofTree tree := by
  rw [arena_eq]
  cases template s tokens with
  | error e => exact ⟨nofun, fun ⟨_, read, _⟩ => nomatch read⟩
  | ok tree =>
      constructor
      · rintro ⟨⟩
        exact ⟨tree, rfl, rfl⟩
      · rintro ⟨_, ⟨⟩, rfl⟩
        rfl

end Templating.Parse
