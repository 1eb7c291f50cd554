import Templating.Proofs.Locality

/-! # Rows of operands and how they are grouped

A row is operands with operators between them. A grouping gives every operator of a row its two operands.
It respects the operators when each takes operands that bind more tightly than itself, or as tightly where
the associativity allows it. There is one such grouping at most, and there is none at all where an operator
that does not associate meets another one of its level.
-/

namespace Templating.Parse

/-- What stands between the operators of a row: a token with a value of its own, or an expression in
brackets. -/
inductive IsOperand (r : Registries) : List Token → Tree → Prop
  | literal {token : Token} {value : Scalar} :
      token.kind = .literal → literal token = .ok value → IsOperand r [token] (.data value token.line {})
  | string {token : Token} :
      token.kind = .string → IsOperand r [token] (.data (.string token.value) token.line {})
  | identifier {token : Token} :
      token.kind = .identifier → isWordLike token.value = true →
      IsOperand r [token] (.variable token.value token.line {})
  | group {opening closing : Token} {inner : List Token} {tree : Tree} :
      opening.isPunctuation "(" = true → closing.isPunctuation ")" = true → ReadsWhole r inner tree →
      IsOperand r (opening :: inner ++ [closing]) tree

/-- An operand of a row, with the tree it stands for. -/
structure Operand (r : Registries) where
  tokens : List Token
  tree : Tree
  isOperand : IsOperand r tokens tree

/-- An operator of a row, written with one of its aliases. -/
structure OperatorUse (r : Registries) where
  id : Nat
  definition : OperatorDefinition
  word : Token
  words : List Token
  registered : r.operators.get? id = some definition
  written : ∃ spelling ∈ definition.aliases, (word :: words).map Token.value = Text.words spelling
  isOperator : ∀ token ∈ word :: words, token.kind = .operator

namespace OperatorUse

variable {r : Registries}

def tokens (use : OperatorUse r) : List Token :=
  use.word :: use.words

/-- How tightly the operator binds. -/
def level (use : OperatorUse r) : Nat :=
  use.definition.precedence.toNat

def associativity (use : OperatorUse r) : Associativity :=
  use.definition.associativity

end OperatorUse

/-- Operands with operators between them. -/
structure Row (r : Registries) where
  first : Operand r
  later : List (OperatorUse r × Operand r)

namespace Row

variable {r : Registries}

/-- The tokens of operators and the operands behind them. -/
def tokensOf (later : List (OperatorUse r × Operand r)) : List Token :=
  later.flatMap fun pair => pair.1.tokens ++ pair.2.tokens

def tokens (row : Row r) : List Token :=
  row.first.tokens ++ tokensOf row.later

def uses (row : Row r) : List (OperatorUse r) :=
  row.later.map Prod.fst

end Row

/-- A row in which every operator has its operands. -/
inductive Grouping (r : Registries) where
  | operand (operand : Operand r)
  | operation (left : Grouping r) (use : OperatorUse r) (right : Grouping r)

namespace Grouping

variable {r : Registries} {g left right left' right' : Grouping r} {use use' : OperatorUse r}

def first : Grouping r → Operand r
  | operand a => a
  | operation left _ _ => left.first

def later : Grouping r → List (OperatorUse r × Operand r)
  | operand _ => []
  | operation left use right => left.later ++ (use, right.first) :: right.later

/-- The operands and operators from left to right. -/
def inOrder (g : Grouping r) : Row r :=
  ⟨g.first, g.later⟩

def tree : Grouping r → Tree
  | operand a => a.tree
  | operation left use right =>
    .operator use.id (some left.tree) none (some right.tree) use.word.line {}

/-- The operator at the top; an expression in brackets shows none. -/
def root? : Grouping r → Option (OperatorUse r)
  | operand _ => none
  | operation _ use _ => some use

/-- Every operator binds more loosely than the operators of its operands, or as tightly as one on its right
if it groups from the right, and as one on its left that groups from the left. -/
def Respects : Grouping r → Prop
  | operand _ => True
  | operation left use right => left.Respects ∧ right.Respects ∧
      (∀ root ∈ right.root?,
        use.level < root.level ∨ root.level = use.level ∧ use.associativity = .right) ∧
      ∀ root ∈ left.root?,
        use.level < root.level ∨ root.level = use.level ∧ root.associativity = .left

def uses (g : Grouping r) : List (OperatorUse r) :=
  g.inOrder.uses

theorem uses_operation (left : Grouping r) (use : OperatorUse r) (right : Grouping r) :
    (operation left use right).uses = left.uses ++ use :: right.uses := by
  simp only [uses, inOrder, Row.uses, later, List.map_append, List.map_cons]

theorem mem_uses_operation {other : OperatorUse r} :
    other ∈ (operation left use right).uses ↔ other ∈ left.uses ∨ other = use ∨ other ∈ right.uses := by
  rw [uses_operation, List.mem_append, List.mem_cons]

theorem uses_operand (a : Operand r) : (operand a).uses = [] :=
  rfl

theorem root?_of_mem {other : OperatorUse r} (member : other ∈ g.uses) : ∃ root, root ∈ g.root? := by
  cases g with
  | operand a => exact absurd member List.not_mem_nil
  | operation left use right => exact ⟨use, rfl⟩

theorem Respects.level_right (respects : (operation left use right).Respects) :
    ∀ root ∈ right.root?, use.level ≤ root.level := by
  intro root top
  rcases respects.2.2.1 root top with tighter | ⟨same, -⟩ <;> omega

theorem Respects.level_left (respects : (operation left use right).Respects) :
    ∀ root ∈ left.root?, use.level ≤ root.level := by
  intro root top
  rcases respects.2.2.2 root top with tighter | ⟨same, -⟩ <;> omega

theorem Respects.root_loosest (respects : g.Respects) {root other : OperatorUse r} (top : root ∈ g.root?)
    (member : other ∈ g.uses) : root.level ≤ other.level := by
  induction g generalizing root with
  | operand a => cases top
  | operation left use right leftLoosest rightLoosest =>
      cases top
      rcases mem_uses_operation.mp member with inside | rfl | inside
      · obtain ⟨below, belowTop⟩ := root?_of_mem inside
        exact (respects.level_left below belowTop).trans (leftLoosest respects.1 belowTop inside)
      · exact Nat.le_refl _
      · obtain ⟨below, belowTop⟩ := root?_of_mem inside
        exact (respects.level_right below belowTop).trans (rightLoosest respects.2.1 belowTop inside)

/-- The operators on the right of one that does not group from the right bind more tightly. -/
theorem Respects.right_tighter (respects : (operation left use right).Respects)
    (notRight : use.associativity ≠ .right) {other : OperatorUse r} (member : other ∈ right.uses) :
    use.level < other.level := by
  obtain ⟨root, top⟩ := root?_of_mem member
  have above := respects.2.1.root_loosest top member
  rcases respects.2.2.1 root top with tighter | ⟨-, isRight⟩
  · omega
  · exact absurd isRight notRight

theorem Respects.all_left (respects : g.Respects) {root other : OperatorUse r} (top : root ∈ g.root?)
    (isLeft : root.associativity = .left) (member : other ∈ g.uses) (same : other.level = root.level) :
    other.associativity = .left := by
  induction g generalizing root with
  | operand a => cases top
  | operation left use right leftAll rightAll =>
      cases top
      rcases mem_uses_operation.mp member with inside | rfl | inside
      · obtain ⟨below, belowTop⟩ := root?_of_mem inside
        have loosest := respects.1.root_loosest belowTop inside
        rcases respects.2.2.2 below belowTop with tighter | ⟨level, belowLeft⟩
        · omega
        · exact leftAll respects.1 belowTop belowLeft inside (same.trans level.symm)
      · exact isLeft
      · have tighter := respects.right_tighter (by rw [isLeft]; decide) inside
        omega

theorem Respects.left_of_level (respects : (operation left use right).Respects) {other : OperatorUse r}
    (member : other ∈ left.uses) (loose : other.level ≤ use.level) :
    other.level = use.level ∧ other.associativity = .left := by
  obtain ⟨root, top⟩ := root?_of_mem member
  have loosest := respects.1.root_loosest top member
  rcases respects.2.2.2 root top with tighter | ⟨level, isLeft⟩
  · omega
  · have same : other.level = root.level := by omega
    exact ⟨same.trans level, respects.1.all_left top isLeft member same⟩

theorem Respects.not_crossed (respects : (operation left use right).Respects)
    (respects' : (operation left' use' right').Respects) (inLeft : use ∈ left'.uses)
    (inRight : use' ∈ right.uses) : False := by
  obtain ⟨root, top⟩ := root?_of_mem inRight
  have above := respects.2.1.root_loosest top inRight
  have below := respects.level_right root top
  obtain ⟨level, isLeft⟩ := respects'.left_of_level inLeft (by omega)
  -- An operator that groups from the left has only tighter ones on its right.
  have tighter := respects.right_tighter (by rw [isLeft]; decide) inRight
  omega

theorem Respects.split_unique (respects : (operation left use right).Respects)
    (respects' : (operation left' use' right').Respects) {extra : List (OperatorUse r × Operand r)}
    (longer : left'.later = left.later ++ extra)
    (rest : (use, right.first) :: right.later = extra ++ (use', right'.first) :: right'.later) : extra = [] := by
  cases extra with
  | nil => rfl
  | cons pair extra =>
      obtain ⟨rfl, sameRight⟩ := List.cons.inj rest
      refine (respects.not_crossed respects' ?_ ?_).elim
      · rw [uses, inOrder, Row.uses, longer]
        simp
      · rw [uses, inOrder, Row.uses, sameRight]
        simp

theorem Respects.unique {other : Grouping r} (respects : g.Respects) (respects' : other.Respects)
    (same : g.inOrder = other.inOrder) : g = other := by
  obtain ⟨sameFirst, sameLater⟩ := Row.mk.inj same
  clear same
  induction g generalizing other with
  | operand a =>
      cases other with
      | operand b => exact congrArg operand sameFirst
      | operation left' use' right' => exact absurd sameLater.symm (by simp [later])
  | operation left use right leftUnique rightUnique =>
      cases other with
      | operand b => exact absurd sameLater (by simp [later])
      | operation left' use' right' =>
          have parts : left.later = left'.later ∧
              (use, right.first) :: right.later = (use', right'.first) :: right'.later := by
            rcases List.append_eq_append_iff.mp sameLater with ⟨extra, longer, rest⟩ | ⟨extra, longer, rest⟩
            · obtain rfl := respects.split_unique respects' longer rest
              exact ⟨by simpa using longer.symm, rest⟩
            · obtain rfl := respects'.split_unique respects longer rest
              exact ⟨by simpa using longer, rest.symm⟩
          obtain ⟨pair, sameRight⟩ := List.cons.inj parts.2
          obtain ⟨rfl, sameMiddle⟩ := Prod.mk.inj pair
          rw [leftUnique respects.1 respects'.1 sameFirst parts.1,
            rightUnique respects.2.1 respects'.2.1 sameMiddle sameRight]

end Grouping

variable {r : Registries}

/-- An operator that does not associate is followed by one of its level, with none that binds more loosely
between them. -/
def Conflict (uses : List (OperatorUse r)) : Prop :=
  ∃ before first between second after, uses = before ++ first :: (between ++ second :: after) ∧
    first.associativity = .none ∧ second.level = first.level ∧ ∀ use ∈ between, first.level ≤ use.level

theorem Conflict.append_left {uses : List (OperatorUse r)} (conflict : Conflict uses)
    (front : List (OperatorUse r)) : Conflict (front ++ uses) := by
  obtain ⟨before, first, between, second, after, rfl, clash⟩ := conflict
  exact ⟨front ++ before, first, between, second, after, by simp, clash⟩

theorem Grouping.Respects.no_conflict {g : Grouping r} (respects : g.Respects) : ¬Conflict g.uses := by
  induction g with
  | operand a =>
      rintro ⟨before, first, between, second, after, split, -⟩
      simp [uses_operand] at split
  | operation left use right leftIH rightIH =>
      rintro ⟨before, first, between, second, after, split, notAssociative, sameLevel, tight⟩
      rw [uses_operation] at split
      -- On the left of an operator of its level an operator groups from the left.
      have ofLeft : first ∈ left.uses → first.level ≤ use.level → False := by
        intro member loose
        obtain ⟨-, isLeft⟩ := respects.left_of_level member loose
        rw [isLeft] at notAssociative
        cases notAssociative
      rcases append_cons_cases split with ⟨extra, -, covered⟩ | ⟨-, rfl, covered⟩ | ⟨extra, longer, covered⟩
      · exact rightIH respects.2.1 ⟨extra, first, between, second, after, covered, notAssociative, sameLevel, tight⟩
      · have member : second ∈ right.uses := by simp [covered]
        have tighter := respects.right_tighter (by rw [notAssociative]; decide) member
        omega
      · have member : first ∈ left.uses := by simp [longer]
        rcases append_cons_cases covered with ⟨gap, rfl, -⟩ | ⟨-, rfl, -⟩ | ⟨gap, within, -⟩
        · exact leftIH respects.1 ⟨before, first, between, second, gap, longer, notAssociative, sameLevel, tight⟩
        · exact ofLeft member (Nat.le_of_eq sameLevel.symm)
        · exact ofLeft member (tight use (by simp [within]))

end Templating.Parse
