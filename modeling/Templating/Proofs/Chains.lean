import Templating.Proofs.Locality

/-! # Chains of one operator

In a chain one operator stands between all operands. Below the highest precedence the chain is nested as the
associativity of the operator asks for, or it is refused. There is no precedence above the highest one, so the right
operand of an operator of that precedence takes the rest of the chain, whatever its associativity is.
-/

namespace Templating.Parse

variable {r : Registries} {id : Nat} {definition : OperatorDefinition} {c d e : Cursor} {a b : Tree}

/-- An operand is read from one place to another, with whatever stands in front of it and behind it. -/
def ReadsOperand (r : Registries) (c : Cursor) (tree : Tree) (d : Cursor) : Prop :=
  ∃ budget, unary r budget c = .ok (tree, d)

/-- Here no operator follows an operand, and no symbol that would be taken for one. -/
def NoOperator (r : Registries) (c : Cursor) : Prop :=
  r.operators.binaryAt? c.tokens = none ∧ (c.current.kind = .operator → isWordLike c.current.value = true)

/-- An operator of a chain, by its line, and the operand behind it. -/
structure Link where
  line : Nat
  operand : Tree

/-- From one place to another the same operator stands in front of every operand, and none stands at the end. -/
inductive Links (r : Registries) (id : Nat) (definition : OperatorDefinition) : Cursor → List Link → Cursor → Prop where
  | done {c : Cursor} (ends : NoOperator r c) : Links r id definition c [] c
  | more {c d e : Cursor} {length : Nat} {operand : Tree} {links : List Link}
      (found : r.operators.binaryAt? c.tokens = some ⟨id, definition, length⟩)
      (reads : ReadsOperand r (c.skip length) operand d) (later : Links r id definition d links e) :
      Links r id definition c (⟨c.current.line, operand⟩ :: links) e

/-- An operand and the links behind it. -/
def Chain (r : Registries) (id : Nat) (definition : OperatorDefinition) (c : Cursor) (first : Tree)
    (links : List Link) (e : Cursor) : Prop :=
  ∃ d, ReadsOperand r c first d ∧ Links r id definition d links e

/-- An operator with its two operands. -/
def Link.node (id : Nat) (link : Link) (left right : Tree) : Tree :=
  .operator id (some left) none (some right) link.line {}

/-- Every operator takes all that stands in front of it for its left operand. -/
def nestLeft (id : Nat) (first : Tree) (links : List Link) : Tree :=
  links.foldl (fun left link => link.node id left link.operand) first

/-- Every operator takes all that stands behind it for its right operand. -/
def nestRight (id : Nat) (first : Tree) : List Link → Tree
  | [] => first
  | link :: links => link.node id first (nestRight id link.operand links)

theorem SameAhead.of_closed (closed : c.Closed) : SameAhead c.tokens c.tokens := by
  have split := (List.dropLast_append_getLast c.tokens_ne_nil).symm
  have isEnd := closed _ (List.getLast?_eq_some_getLast c.tokens_ne_nil)
  have ends : Ends (c.tokens.getLast c.tokens_ne_nil) := .of_kind (by rw [isEnd]; decide) (by rw [isEnd]; decide)
  exact ⟨_, _, [], _, [], split, split, ends, ends⟩

/-- An operand that is read with some budget is read with every budget that its tokens ask for. -/
theorem ReadsOperand.passes (reads : ReadsOperand r c a d) (closed : c.Closed) :
    ∃ used, 1 ≤ used.length ∧ c.Passes used d ∧
      ∀ budget, 8 * used.length + 2 ≤ budget → unary r budget c = .ok (a, d) := by
  obtain ⟨budget, reading⟩ := reads
  obtain ⟨-, -, -, unaries, -⟩ := readings_local r budget
  obtain ⟨used, some_token, passes, again⟩ := unaries c a d closed reading
  exact ⟨used, some_token, passes, again c d passes (.of_closed (closed.behind passes))⟩

theorem NoOperator.climb (ends : NoOperator r c) (budget : Nat) (least : UInt8) (left : Tree)
    (earlier : Option (UInt8 × String)) : climb r (budget + 1) least left earlier c = .ok (left, c) := by
  have unmatched : r.operators.binaryAt? c.stream.remaining = none := ends.1
  rw [Parse.climb, unmatched]
  refine if_neg ?_
  rintro ⟨isOperator, symbol⟩
  rw [ends.2 isOperator] at symbol
  cases symbol

theorem climb_of_loose {length : Nat} (found : r.operators.binaryAt? c.tokens = some ⟨id, definition, length⟩)
    {least : UInt8} (loose : definition.precedence < least) (budget : Nat) (left : Tree)
    (earlier : Option (UInt8 × String)) : climb r (budget + 1) least left earlier c = .ok (left, c) := by
  have matched : r.operators.binaryAt? c.stream.remaining = some ⟨id, definition, length⟩ := found
  rw [climb, matched]
  exact if_pos loose

/-- An operator that binds tightly enough, and does not meet an earlier one of its level, takes its right operand: the
operand behind it with what can be read on from there. -/
theorem climb_of_found (isBinary : definition.arity = .binary) {length : Nat}
    (found : r.operators.binaryAt? c.tokens = some ⟨id, definition, length⟩) {least : UInt8}
    (tight : ¬ definition.precedence < least) {budget : Nat} (operand : unary r budget (c.skip length) = .ok (b, d))
    {right : Tree × Cursor} (reading : climb r budget definition.rightLimit b none d = .ok right) (left : Tree) :
    climb r (budget + 3) least left none c =
      climb r (budget + 2) least (.operator id (some left) none (some right.1) c.current.line {})
        (if definition.associativity = .none then some (definition.precedence, definition.name) else none) right.2 := by
  have matched : r.operators.binaryAt? c.stream.remaining = some ⟨id, definition, length⟩ := found
  have taken : operands r (budget + 2) ⟨id, definition, length⟩ left c.current.line (c.skip length) =
      .ok (.operator id (some left) none (some right.1) c.current.line {}, right.2) := by
    rw [operands, isBinary]
    dsimp only
    rw [binary, operand]
    dsimp only [ok_bind]
    rw [reading]
    rfl
  rw [climb, matched]
  dsimp only
  rw [if_neg tight, Option.filter_none]
  dsimp only
  rw [taken]
  rfl

/-- An operator of the level of an earlier one that does not associate is refused. -/
theorem climb_of_chained {length : Nat} (found : r.operators.binaryAt? c.tokens = some ⟨id, definition, length⟩)
    {least : UInt8} (tight : ¬ definition.precedence < least) (budget : Nat) (left : Tree) (name : String) :
    climb r (budget + 1) least left (some (definition.precedence, name)) c =
      .error ⟨.chained name definition.name, c.current.line⟩ := by
  have matched : r.operators.binaryAt? c.stream.remaining = some ⟨id, definition, length⟩ := found
  have same : (some (definition.precedence, name)).filter (fun pair => pair.1 == definition.precedence) =
      some (definition.precedence, name) := by
    rw [Option.filter_some, if_pos (beq_self_eq_true _)]
  rw [climb, matched]
  dsimp only
  rw [if_neg tight, same]

namespace Links

variable {links : List Link} {least : UInt8}

theorem noOperator (chain : Links r id definition c links e) : NoOperator r e := by
  induction chain with
  | done ends => exact ends
  | more _ _ _ ih => exact ih

theorem stops (chain : Links r id definition c links e) (loose : definition.precedence < least) (budget : Nat)
    (left : Tree) (earlier : Option (UInt8 × String)) :
    climb r (budget + 1) least left earlier c = .ok (left, c) := by
  cases chain with
  | done ends => exact ends.climb budget least left earlier
  | more found _ _ => exact climb_of_loose found loose budget left earlier

/-- The budget is enough to pass an operator, and to stop behind its right operand. -/
theorem steps_left {budget : Nat} (enough : 8 * c.tokens.length ≤ budget) : ∃ rest, budget = rest + 1 + 3 := by
  have some_token := List.length_pos_iff.mpr c.tokens_ne_nil
  exact ⟨budget - 4, by omega⟩

/-- The first operand of a chain behind an operator, with the budget that is left for it and for what stands behind. -/
theorem first_operand {length budget : Nat} (closed : c.Closed)
    (found : r.operators.binaryAt? c.tokens = some ⟨id, definition, length⟩)
    (reads : ReadsOperand r (c.skip length) b d) (enough : 8 * c.tokens.length ≤ budget + 3) :
    d.Closed ∧ unary r budget (c.skip length) = .ok (b, d) ∧ 8 * d.tokens.length ≤ budget := by
  obtain ⟨words, some_word, along, -, -⟩ := passes_found closed found
  obtain ⟨used, some_token, passes, reading⟩ := reads.passes (closed.behind along)
  have before := along.length
  have behind := passes.length
  dsimp only at before
  exact ⟨(closed.behind along).behind passes, reading budget (by omega), by omega⟩

/-- Where the right operand of an operator takes the same operator, a chain is nested to the right. -/
theorem nested_right (chain : Links r id definition c links e) (closed : c.Closed)
    (isBinary : definition.arity = .binary) (takes : ¬ definition.precedence < definition.rightLimit)
    (tight : ¬ definition.precedence < least) (left : Tree) {budget : Nat} (enough : 8 * c.tokens.length ≤ budget) :
    climb r budget least left none c = .ok (nestRight id left links, e) := by
  induction chain generalizing least left budget with
  | done ends =>
      obtain ⟨rest, rfl⟩ := steps_left enough
      exact ends.climb _ least left none
  | @more _ _ _ _ b _ found reads later ih =>
      obtain ⟨rest, rfl⟩ := steps_left enough
      obtain ⟨closedBehind, operand, remaining⟩ := first_operand closed found reads enough
      have inner := ih closedBehind takes b remaining
      rw [climb_of_found isBinary found tight operand inner left]
      exact later.noOperator.climb _ _ _ _

/-- Where it does not, and the operator groups from the left, a chain is nested to the left. -/
theorem nested_left (chain : Links r id definition c links e) (closed : c.Closed)
    (isBinary : definition.arity = .binary) (leaves : definition.precedence < definition.rightLimit)
    (fromLeft : definition.associativity = .left) (tight : ¬ definition.precedence < least) (left : Tree) {budget : Nat}
    (enough : 8 * c.tokens.length ≤ budget) :
    climb r budget least left none c = .ok (nestLeft id left links, e) := by
  induction chain generalizing left budget with
  | done ends =>
      obtain ⟨rest, rfl⟩ := steps_left enough
      exact ends.climb _ least left none
  | @more _ _ _ _ b _ found reads later ih =>
      obtain ⟨rest, rfl⟩ := steps_left enough
      obtain ⟨closedBehind, operand, remaining⟩ := first_operand closed found reads enough
      have inner := later.stops leaves rest b none
      rw [climb_of_found isBinary found tight operand inner left, fromLeft, if_neg (by decide)]
      exact ih closedBehind _ (by omega)

/-- Where it does not, and the operator does not associate, the second operator of a chain is refused. -/
theorem refused (chain : Links r id definition c links e) (closed : c.Closed)
    (isBinary : definition.arity = .binary) (leaves : definition.precedence < definition.rightLimit)
    (apart : definition.associativity = .none) (tight : ¬ definition.precedence < least) (several : 2 ≤ links.length)
    (left : Tree) {budget : Nat} (enough : 8 * c.tokens.length ≤ budget) :
    ∃ e, climb r budget least left none c = .error e ∧ e.code = .chainedOperator := by
  cases chain with
  | done => simp at several
  | @more _ _ _ _ b _ found reads later =>
      obtain ⟨rest, rfl⟩ := steps_left enough
      obtain ⟨-, operand, -⟩ := first_operand closed found reads enough
      have inner := later.stops leaves rest b none
      rw [climb_of_found isBinary found tight operand inner left, apart, if_pos rfl]
      cases later with
      | done => simp at several
      | more second _ _ => exact ⟨_, climb_of_chained second tight _ _ _, rfl⟩

end Links

theorem lt_tighter {precedence : UInt8} (below : precedence < 255) : precedence < tighter precedence := by
  have bound : precedence.toNat < 255 := below
  have notHighest : precedence ≠ 255 := by
    rintro rfl
    exact absurd bound (by decide)
  rw [tighter, if_neg notHighest, UInt8.lt_iff_toNat_lt, UInt8.toNat_add]
  have one : (1 : UInt8).toNat = 1 := rfl
  omega

theorem Chain.expression_eq {first : Tree} {links : List Link} (chain : Chain r id definition c first links e)
    (closed : c.Closed) :
    ∃ d budget, d.Closed ∧ Links r id definition d links e ∧ 8 * d.tokens.length ≤ budget ∧
      expression r c = climb r budget 0 first none d := by
  obtain ⟨d, reads, later⟩ := chain
  obtain ⟨used, some_token, passes, reading⟩ := reads.passes closed
  have length := passes.length
  have tokens := c.later_length
  refine ⟨d, 8 * c.stream.later.length + 15, closed.behind passes, later, by omega, ?_⟩
  rw [expression, Cursor.budget, Nat.mul_add, binary, reading _ (by omega)]
  rfl

/-- A chain of an operator below the highest precedence is nested to the left or to the right, or refused if the operator
does not associate. A chain of an operator of the highest precedence is nested to the right in any case. -/
theorem chain_nested {first : Tree} {links : List Link} (closed : c.Closed) (isBinary : definition.arity = .binary)
    (chain : Chain r id definition c first links e) (several : 2 ≤ links.length) :
    (definition.precedence < 255 →
      (definition.associativity = .left → expression r c = .ok (nestLeft id first links, e)) ∧
      (definition.associativity = .right → expression r c = .ok (nestRight id first links, e)) ∧
      (definition.associativity = .none → ∃ e, expression r c = .error e ∧ e.code = .chainedOperator)) ∧
    (definition.precedence = 255 → expression r c = .ok (nestRight id first links, e)) := by
  obtain ⟨d, budget, closedBehind, later, enough, same⟩ := chain.expression_eq closed
  have tight : ¬ definition.precedence < 0 := UInt8.not_lt_zero
  rw [same]
  constructor
  · intro below
    refine ⟨fun fromLeft => ?_, fun fromRight => ?_, fun apart => ?_⟩
    · have leaves : definition.precedence < definition.rightLimit := by
        rw [OperatorDefinition.rightLimit, fromLeft]
        exact lt_tighter below
      exact later.nested_left closedBehind isBinary leaves fromLeft tight first enough
    · have takes : ¬ definition.precedence < definition.rightLimit := by
        rw [OperatorDefinition.rightLimit, fromRight]
        exact UInt8.lt_irrefl _
      exact later.nested_right closedBehind isBinary takes tight first enough
    · have leaves : definition.precedence < definition.rightLimit := by
        rw [OperatorDefinition.rightLimit, apart]
        exact lt_tighter below
      exact later.refused closedBehind isBinary leaves apart tight several first enough
  · intro highest
    have takes : ¬ definition.precedence < definition.rightLimit := by
      rw [OperatorDefinition.rightLimit, highest]
      split
      · exact UInt8.lt_irrefl _
      · decide
    exact later.nested_right closedBehind isBinary takes tight first enough

def joining : OperatorDefinition :=
  ⟨"join", ["~", "joined with"], 254, .left, .binary, .binary "concat"⟩

def following : OperatorDefinition :=
  ⟨"follow", ["~>"], 255, .left, .binary, .binary "concat"⟩

def comparing : OperatorDefinition :=
  ⟨"compare", ["<>"], 255, .none, .binary, .binary "eq"⟩

def highRegistries : Registries where
  operators := [joining, following, comparing].foldl (fun registry definition => (registry.register definition).1) {}

/-- The place in front of tokens. -/
def inFrontOf (tokens : List Token) : Cursor where
  stream := .ofTokens (tokens ++ [.eof 1])

/-- The tokens of `f(x) ~ y.z joined with ("b")`. -/
def joinTokens : List Token :=
  [⟨.identifier, "f", 1⟩, ⟨.punctuation, "(", 1⟩, ⟨.identifier, "x", 1⟩, ⟨.punctuation, ")", 1⟩, ⟨.operator, "~", 1⟩,
    ⟨.identifier, "y", 1⟩, ⟨.punctuation, ".", 1⟩, ⟨.identifier, "z", 1⟩, ⟨.operator, "joined", 2⟩, ⟨.operator, "with", 2⟩,
    ⟨.punctuation, "(", 2⟩, ⟨.string, "b", 2⟩, ⟨.punctuation, ")", 2⟩]

theorem joinTokens_nested :
    (inFrontOf joinTokens).Closed ∧ ∃ first links e, Chain highRegistries 0 joining (inFrontOf joinTokens) first links e ∧
      links.map Link.line = [1, 2] ∧ expression highRegistries (inFrontOf joinTokens) = .ok (nestLeft 0 first links, e) := by
  have closed : (inFrontOf joinTokens).Closed := closed_ofTokens rfl
  have chain : Chain highRegistries 0 joining (inFrontOf joinTokens) _ [_, _] _ :=
    ⟨_, ⟨20, rfl⟩, .more rfl ⟨20, rfl⟩ (.more rfl ⟨20, rfl⟩ (.done ⟨rfl, nofun⟩))⟩
  obtain ⟨below, -⟩ := chain_nested closed rfl chain (Nat.le_refl 2)
  exact ⟨closed, _, _, _, chain, rfl, (below (by decide)).1 rfl⟩

/-- The tokens of `a`, `b` and `c` with a symbol between them. -/
def chained (symbol : String) : List Token :=
  [⟨.identifier, "a", 1⟩, ⟨.operator, symbol, 1⟩, ⟨.identifier, "b", 1⟩, ⟨.operator, symbol, 1⟩, ⟨.identifier, "c", 1⟩]

/-- At the highest precedence a chain that should be nested to the left is not, and one that should be refused is read. -/
theorem highest_chains_misread :
    (following.associativity = .left ∧ ∃ first links e, links.length = 2 ∧
      Chain highRegistries 1 following (inFrontOf (chained "~>")) first links e ∧
      expression highRegistries (inFrontOf (chained "~>")) ≠ .ok (nestLeft 1 first links, e)) ∧
    (comparing.associativity = .none ∧ ∃ first links e, links.length = 2 ∧
      Chain highRegistries 2 comparing (inFrontOf (chained "<>")) first links e ∧
      ∃ result, expression highRegistries (inFrontOf (chained "<>")) = .ok result) := by
  have follows : Chain highRegistries 1 following (inFrontOf (chained "~>")) _ [_, _] _ :=
    ⟨_, ⟨20, rfl⟩, .more rfl ⟨20, rfl⟩ (.more rfl ⟨20, rfl⟩ (.done ⟨rfl, nofun⟩))⟩
  have compares : Chain highRegistries 2 comparing (inFrontOf (chained "<>")) _ [_, _] _ :=
    ⟨_, ⟨20, rfl⟩, .more rfl ⟨20, rfl⟩ (.more rfl ⟨20, rfl⟩ (.done ⟨rfl, nofun⟩))⟩
  refine ⟨⟨rfl, _, _, _, rfl, follows, ?_⟩, rfl, _, _, _, rfl, compares, _, rfl⟩
  exact fun same => nomatch same

end Templating.Parse
