import Templating.Proofs.Grouping
import Templating.Registry.Core

/-! # Precedence climbing

Reading a row of operands and operators gives the one grouping that respects the operators, or the error
that operators of one level cannot be chained.
-/

namespace Templating.Parse

variable {r : Registries}

/-- The tokens do not go on with an operand in front of them. -/
def Detached (tail : List Token) : Prop :=
  ∃ token rest, tail = token :: rest ∧ ∀ text ∈ ["(", "[", "."], token.isPunctuation text = false

/-- Tokens that cannot go on with an expression: neither a trailer of an operand nor an operator behind
one stands in front, nor a symbol, which would be taken for an operator. -/
def Concludes (r : Registries) (tail : List Token) : Prop :=
  Detached tail ∧ r.operators.binaryAt? tail = none ∧
    ∀ token ∈ tail.head?, token.kind = .operator → isWordLike token.value = true

theorem Detached.ne_nil {tail : List Token} (detached : Detached tail) : tail ≠ [] := by
  obtain ⟨token, rest, rfl, -⟩ := detached
  exact List.cons_ne_nil _ _

theorem Detached.trailers {c : Cursor} (detached : Detached c.tokens) (budget : Nat) (base : Tree) :
    trailers r (budget + 1) base c = .ok (base, c) := by
  obtain ⟨token, rest, split, apart⟩ := detached
  rw [Parse.trailers, Cursor.current_eq split]
  dsimp only
  rw [apart "[" (by decide), apart "." (by decide)]
  rfl

theorem Concludes.climb {tail : List Token} (concludes : Concludes r tail) {c : Cursor} (split : c.tokens = tail)
    (budget : Nat) (least : UInt8) (left : Tree) (earlier : Option (UInt8 × String)) :
    climb r (budget + 1) least left earlier c = .ok (left, c) := by
  have unmatched : r.operators.binaryAt? c.stream.remaining = none := by
    rw [← Cursor.tokens, split]
    exact concludes.2.1
  have noSymbol : ¬(c.current.kind = .operator ∧ !isWordLike c.current.value) := by
    obtain ⟨token, rest, head, -⟩ := concludes.1
    rw [Cursor.current_eq (split.trans head)]
    rintro ⟨isOperator, symbol⟩
    rw [concludes.2.2 token (by rw [head]; rfl) isOperator] at symbol
    cases symbol
  rw [Parse.climb, unmatched]
  exact if_neg noSymbol

theorem IsOperand.head {tokens : List Token} {tree : Tree} (isOperand : IsOperand r tokens tree) :
    ∃ token rest, tokens = token :: rest ∧ token.kind ≠ .operator := by
  cases isOperand with
  | literal isLiteral _ => exact ⟨_, _, rfl, by rw [isLiteral]; decide⟩
  | string isString => exact ⟨_, _, rfl, by rw [isString]; decide⟩
  | identifier isIdentifier _ => exact ⟨_, _, rfl, by rw [isIdentifier]; decide⟩
  | group opening _ _ => exact ⟨_, _, rfl, by rw [(Token.isPunctuation_iff.mp opening).1]; decide⟩

/-- An expression in brackets is an operand, whatever stands behind it. -/
theorem ReadsWhole.primary_group {inner tail : List Token} {opening closing : Token} {tree : Tree}
    (whole : ReadsWhole r inner tree) (opens : opening.isPunctuation "(" = true)
    (closes : closing.isPunctuation ")" = true) {c : Cursor} (split : c.tokens = opening :: (inner ++ closing :: tail))
    {budget : Nat} (enough : 8 * (inner.length + 1) ≤ budget) :
    primary r (budget + 1) c = .ok (tree, c.skip (inner.length + 2)) := by
  have behind : c.next.tokens = inner ++ closing :: tail := Cursor.tokens_next split (by simp)
  obtain ⟨isPunctuation, text⟩ := Token.isPunctuation_iff.mp opens
  have entered : (c.next.enter .expression "(" opening.line).tokens = inner ++ closing :: tail := behind
  have taken : Parse.binary r budget 0 (c.next.enter .expression "(" opening.line) =
      .ok (tree, (c.next.enter .expression "(" opening.line).skip inner.length) :=
    whole.binary entered (.of_punctuation closes (by decide)) (by omega)
  have closer : closeParen.accepts (c.next.skip inner.length).current = true := by
    rw [Cursor.current_skip behind]
    exact closes
  have unnamed : isName opening = false := by
    rw [isName, isPunctuation]
    rfl
  rw [Parse.primary, Cursor.current_eq split]
  dsimp only
  rw [isPunctuation, unnamed, opens, taken, Cursor.skip_enter]
  dsimp only [ok_bind]
  rw [if_neg (by decide), if_neg (by decide), if_neg (by decide), if_pos rfl, Cursor.close_enter closer]
  rw [ok_bind, Cursor.next_skip, Cursor.skip_next]
  congr 3
  omega

theorem IsOperand.primary {tokens tail : List Token} {tree : Tree} (isOperand : IsOperand r tokens tree)
    {c : Cursor} (split : c.tokens = tokens ++ tail) (detached : Detached tail) {budget : Nat}
    (enough : 8 * tokens.length + 1 ≤ budget) :
    primary r budget c = .ok (tree, c.skip tokens.length) := by
  obtain ⟨rest, rfl⟩ : ∃ rest, budget = rest + 1 := ⟨budget - 1, by omega⟩
  rw [Parse.primary]
  cases isOperand with
  | literal isLiteral value =>
      rw [Cursor.current_eq split]
      dsimp only
      rw [if_pos isLiteral, value]
      rfl
  | string isString =>
      rw [Cursor.current_eq split]
      dsimp only
      rw [isString]
      rfl
  | identifier isIdentifier wordLike =>
      rename_i token
      obtain ⟨next, later, rfl, apart⟩ := detached
      have following : c.next.current = next := Cursor.current_eq (Cursor.tokens_next split (List.cons_ne_nil _ _))
      have named : isName token = true := by
        rw [isName, isIdentifier, wordLike]
        rfl
      rw [Cursor.current_eq split, following]
      dsimp only
      rw [isIdentifier, named, apart "(" (by decide)]
      rfl
  | group opening closing inner =>
      rename_i first last middle
      have bracketed : c.tokens = first :: (middle ++ last :: tail) := by simpa using split
      simp only [List.length_append, List.length_cons, List.length_nil] at enough ⊢
      rw [← Parse.primary, inner.primary_group opening closing bracketed (by omega)]

theorem Operand.unary (a : Operand r) {c : Cursor} {tail : List Token} (split : c.tokens = a.tokens ++ tail)
    (detached : Detached tail) {budget : Nat} (enough : 8 * a.tokens.length + 2 ≤ budget) :
    unary r budget c = .ok (a.tree, c.skip a.tokens.length) := by
  obtain ⟨first, rest, head, notOperator⟩ := a.isOperand.head
  obtain ⟨more, rfl⟩ : ∃ more, budget = more + 1 + 1 := ⟨budget - 2, by omega⟩
  have unmatched : r.operators.unaryAt? c.stream.remaining = none := by
    have tokens : c.stream.remaining = first :: (rest ++ tail) := by rw [← Cursor.tokens, split, head]; rfl
    rw [OperatorRegistry.unaryAt?, OperatorRegistry.matchUnary, tokens,
      AliasTrie.longestMatch_of_not_operator notOperator]
    rfl
  have behind := Cursor.tokens_skip split detached.ne_nil
  rw [Parse.unary, unmatched]
  dsimp only
  rw [a.isOperand.primary split detached (by omega)]
  exact Detached.trailers (behind.symm ▸ detached) more a.tree

/-- A registry that was built by registering operators between two operands, none of which has the highest
precedence there is. -/
structure BinaryOnly (registry : OperatorRegistry) : Prop where
  built : registry.Built
  arity : ∀ definition ∈ registry.definitions, definition.arity = .binary
  precedence : ∀ definition ∈ registry.definitions, definition.precedence ≤ 254

namespace OperatorUse

variable (use : OperatorUse r)

theorem mem_definitions : use.definition ∈ r.operators.definitions :=
  List.mem_of_getElem? use.registered

/-- How tightly the operators on the right of this one bind at least. -/
def limit : Nat :=
  if use.associativity = .right then use.level else use.level + 1

def found : OperatorRegistry.Found :=
  ⟨use.id, use.definition, use.tokens.length⟩

theorem rightLimit_eq (operators : BinaryOnly r.operators) : use.definition.rightLimit.toNat = use.limit := by
  have bound : use.definition.precedence.toNat ≤ 254 := operators.precedence _ use.mem_definitions
  have next : (tighter use.definition.precedence).toNat = use.definition.precedence.toNat + 1 := by
    have below : use.definition.precedence ≠ 255 := by
      intro highest
      rw [highest] at bound
      exact absurd bound (by decide)
    rw [tighter, if_neg below, UInt8.toNat_add, Nat.mod_eq_of_lt]
    · rfl
    · exact Nat.lt_of_le_of_lt (Nat.add_le_add_right bound 1) (by decide)
  rw [OperatorDefinition.rightLimit, limit, associativity, level]
  cases use.definition.associativity with
  | left => exact next
  | right => rfl
  | none => exact next

theorem binaryAt?_eq (operators : BinaryOnly r.operators) (a : Operand r) (tail : List Token) :
    r.operators.binaryAt? (use.tokens ++ (a.tokens ++ tail)) = some use.found := by
  obtain ⟨first, rest, head, notOperator⟩ := a.isOperand.head
  obtain ⟨spelling, listed, spelled⟩ := use.written
  have known : r.operators.binary.find? (use.tokens.map Token.value) = some use.id := by
    have named := operators.built.knowsAliases use.id use.definition use.registered spelling listed
    rw [operators.arity _ use.mem_definitions, ← spelled] at named
    exact named
  have isOperator : ∀ token ∈ use.tokens, token.kind = .operator := use.isOperator
  rw [head, OperatorRegistry.binaryAt?, OperatorRegistry.matchBinary, List.cons_append,
    AliasTrie.longestMatch_alias notOperator isOperator (List.cons_ne_nil _ _) known]
  rw [OperatorRegistry.resolve?, Option.bind_some, use.registered]
  rfl

/-- Behind an operator its right operand is read up to the limit of the operator. -/
theorem operands_eq (operators : BinaryOnly r.operators) (a : Operand r) (left : Tree) {c : Cursor}
    {tail : List Token} (split : c.tokens = a.tokens ++ tail) (detached : Detached tail) {budget : Nat}
    (enough : 8 * a.tokens.length + 2 ≤ budget) :
    operands r (budget + 2) use.found left use.word.line c =
      climb r budget use.definition.rightLimit a.tree none (c.skip a.tokens.length) >>= fun right =>
        .ok (.operator use.id (some left) none (some right.1) use.word.line {}, right.2) := by
  have arity : use.found.definition.arity = .binary := operators.arity _ use.mem_definitions
  rw [operands, arity]
  dsimp only
  rw [binary, a.unary split detached enough]
  rfl

end OperatorUse

theorem Row.tokensOf_cons (use : OperatorUse r) (a : Operand r) (later : List (OperatorUse r × Operand r)) :
    tokensOf ((use, a) :: later) = use.tokens ++ (a.tokens ++ tokensOf later) := by
  simp only [tokensOf, List.flatMap_cons, List.append_assoc]

theorem Row.tokensOf_append (first second : List (OperatorUse r × Operand r)) :
    tokensOf (first ++ second) = tokensOf first ++ tokensOf second := by
  simp only [tokensOf, List.flatMap_append]

theorem Concludes.detached_behind {tail : List Token} (concludes : Concludes r tail)
    (later : List (OperatorUse r × Operand r)) : Detached (Row.tokensOf later ++ tail) := by
  cases later with
  | nil => exact concludes.1
  | cons pair later =>
      refine ⟨pair.1.word, _, rfl, fun text _ => ?_⟩
      rw [Token.isPunctuation, pair.1.isOperator _ List.mem_cons_self]
      rfl

namespace Grouping

/-- The operator at the top, if it does not associate. -/
def flag : Grouping r → Option (UInt8 × String)
  | operand _ => none
  | operation _ use _ =>
    if use.definition.associativity = .none then some (use.definition.precedence, use.definition.name) else none

/-- Reading on from a grouping takes some operators and operands into it, and stops in front of one that
binds more loosely than `least`. -/
structure Climbs (g : Grouping r) (least : Nat) (later taken rest : List (OperatorUse r × Operand r))
    (result : Grouping r) : Prop where
  split : later = taken ++ rest
  first : result.first = g.first
  later : result.later = g.later ++ taken
  respects : result.Respects
  tight : ∀ root ∈ result.root?, least ≤ root.level
  loose : ∀ pair ∈ rest.head?, pair.1.level < least

/-- The operator in front can take the grouping as its left operand. -/
def Precedes (g : Grouping r) (later : List (OperatorUse r × Operand r)) : Prop :=
  ∀ root ∈ g.root?, ∀ pair ∈ later.head?, pair.1.level < root.limit

theorem precedes_operand (a : Operand r) (later : List (OperatorUse r × Operand r)) :
    (operand a).Precedes later := by
  intro root top
  cases top

theorem tight_operand (a : Operand r) (least : Nat) : ∀ root ∈ (operand a).root?, least ≤ root.level := by
  intro root top
  cases top

namespace Climbs

variable {g right result : Grouping r} {use : OperatorUse r} {a : Operand r} {least limit : Nat}
  {later taken rest taken' rest' : List (OperatorUse r × Operand r)}

theorem uses (climbs : (operand a).Climbs limit later taken rest right) : right.uses = taken.map Prod.fst := by
  have same : right.later = taken := climbs.later
  rw [Grouping.uses, inOrder, Row.uses, same]

/-- An operator with its right operand, and what is taken behind them. -/
theorem after (climbs : (operand a).Climbs limit later taken rest right)
    (onward : (operation g use right).Climbs least rest taken' rest' result) :
    g.Climbs least ((use, a) :: later) ((use, a) :: taken ++ taken') rest' result where
  split := by rw [climbs.split, onward.split, List.cons_append, List.cons_append, List.append_assoc]
  first := onward.first
  later := by
    have middle : right.first = a := climbs.first
    have same : right.later = taken := climbs.later
    rw [onward.later, Grouping.later, middle, same, List.append_assoc, List.cons_append]
  respects := onward.respects
  tight := onward.tight
  loose := onward.loose

end Climbs

end Grouping

section

variable {tail : List Token} {c : Cursor} {g : Grouping r} {least : UInt8} {budget : Nat}
  {use : OperatorUse r} {a : Operand r} {later : List (OperatorUse r × Operand r)}

/-- In front of an operator climbing stops, fails or takes the operator and its right operand. -/
theorem climb_use (operators : BinaryOnly r.operators) (split : c.tokens = use.tokens ++ (a.tokens ++ tail)) :
    climb r (budget + 1) least g.tree g.flag c =
      if use.level < least.toNat then .ok (g.tree, c)
      else
        match g.flag.filter fun pair => pair.1 == use.definition.precedence with
        | some (_, name) => .error ⟨.chained name use.definition.name, use.word.line⟩
        | none => operands r budget use.found g.tree use.word.line (c.skip use.tokens.length) >>= fun node =>
            climb r budget least node.1
              (if use.definition.associativity = .none then
                some (use.definition.precedence, use.definition.name) else none) node.2 := by
  have matched : r.operators.binaryAt? c.stream.remaining = some use.found := by
    rw [← Cursor.tokens, split]
    exact use.binaryAt?_eq operators a tail
  have here : c.current = use.word := Cursor.current_eq split
  rw [climb, matched, here]
  rfl

/-- An operator of the level of one in front that does not associate conflicts with it. -/
theorem conflict_of_flag (respects : g.Respects) {pair : UInt8 × String}
    (flagged : g.flag.filter (fun pair => pair.1 == use.definition.precedence) = some pair)
    (after : List (OperatorUse r)) : Conflict (g.uses ++ use :: after) := by
  obtain ⟨flag, same⟩ := Option.filter_eq_some_iff.mp flagged
  cases g with
  | operand b => cases flag
  | operation left first right =>
      rw [Grouping.flag] at flag
      split at flag
      · rename_i notAssociative
        cases flag
        refine ⟨left.uses, first, right.uses, use, after, ?_, notAssociative, ?_, ?_⟩
        · rw [Grouping.uses_operation]
          simp
        · exact congrArg UInt8.toNat (beq_iff_eq.mp same).symm
        · intro other member
          obtain ⟨root, top⟩ := Grouping.root?_of_mem member
          exact (respects.level_right root top).trans (respects.2.1.root_loosest top member)
      · cases flag

/-- A grouping without such an operator at its top is a left operand of the operator behind it. -/
theorem respects_operation (respects : g.Respects) (precedes : g.Precedes ((use, a) :: later))
    (unflagged : g.flag.filter (fun pair => pair.1 == use.definition.precedence) = none) {right : Grouping r}
    (rightRespects : right.Respects) (tight : ∀ root ∈ right.root?, use.limit ≤ root.level) :
    (Grouping.operation g use right).Respects := by
  refine ⟨respects, rightRespects, ?_, ?_⟩
  · intro root top
    have above := tight root top
    rw [OperatorUse.limit] at above
    split at above
    · rename_i isRight
      rcases Nat.lt_or_eq_of_le above with tighter | same
      · exact .inl tighter
      · exact .inr ⟨same.symm, isRight⟩
    · exact .inl above
  · intro root top
    have below := precedes root top (use, a) rfl
    cases g with
    | operand b => cases top
    | operation inner first last =>
        cases top
        rw [OperatorUse.limit] at below
        split at below
        · exact .inl below
        · rename_i notRight
          rcases Nat.lt_or_eq_of_le (Nat.le_of_lt_succ below) with tighter | same
          · exact .inl tighter
          refine .inr ⟨same.symm, ?_⟩
          cases associates : root.associativity with
          | left => rfl
          | right => exact absurd associates notRight
          | none =>
              have flag : (Grouping.operation inner root last).flag =
                  some (root.definition.precedence, root.definition.name) := if_pos associates
              have level : root.definition.precedence = use.definition.precedence := UInt8.toNat_inj.mp same.symm
              rw [flag, level] at unflagged
              simp at unflagged

end

/-- Climbing on through a row from a respecting grouping ends with a respecting grouping, or it meets a
conflict. -/
def Settles (r : Registries) (tail : List Token) (later : List (OperatorUse r × Operand r)) : Prop :=
  ∀ (g : Grouping r) (least : UInt8) (c : Cursor) (budget : Nat), g.Respects →
    (∀ root ∈ g.root?, least.toNat ≤ root.level) → g.Precedes later →
    c.tokens = Row.tokensOf later ++ tail → 8 * (Row.tokensOf later).length + 1 ≤ budget →
    (∃ taken rest result, g.Climbs least.toNat later taken rest result ∧
      climb r budget least g.tree g.flag c = .ok (result.tree, c.skip (Row.tokensOf taken).length)) ∨
    (Conflict (g.uses ++ later.map Prod.fst) ∧
      ∃ e, climb r budget least g.tree g.flag c = .error e ∧ e.code = .chainedOperator)

theorem settles_nil {tail : List Token} (concludes : Concludes r tail) : Settles r tail [] := by
  intro g least c budget respects tight precedes split enough
  obtain ⟨more, rfl⟩ : ∃ more, budget = more + 1 := ⟨budget - 1, by omega⟩
  refine .inl ⟨[], [], g, ⟨rfl, rfl, (List.append_nil _).symm, respects, tight, ?_⟩, ?_⟩
  · intro pair member
    cases member
  · exact concludes.climb split _ _ _ _

/-- An operator is settled when shorter rows are: one behind it is its right operand, and another one what
is left of the row behind that operand. -/
theorem settles_cons (operators : BinaryOnly r.operators) {tail : List Token} (concludes : Concludes r tail)
    (use : OperatorUse r) (a : Operand r) {later : List (OperatorUse r × Operand r)}
    (shorter : ∀ rest : List (OperatorUse r × Operand r), rest.length ≤ later.length → Settles r tail rest) :
    Settles r tail ((use, a) :: later) := by
  intro g least c budget respects tight precedes split enough
  rw [Row.tokensOf_cons, List.append_assoc, List.append_assoc] at split
  rw [Row.tokensOf_cons, List.length_append, List.length_append] at enough
  have some_word : 1 ≤ use.tokens.length := Nat.succ_pos _
  obtain ⟨more, rfl⟩ : ∃ more, budget = more + 2 + 1 := ⟨budget - 3, by omega⟩
  rw [climb_use operators split]
  by_cases loose : use.level < least.toNat
  · refine .inl ⟨[], (use, a) :: later, g, ⟨rfl, rfl, (List.append_nil _).symm, respects, tight, ?_⟩, ?_⟩
    · intro pair member
      cases member
      exact loose
    · exact if_pos loose
  rw [if_neg loose]
  cases flagged : g.flag.filter fun pair => pair.1 == use.definition.precedence with
  | some pair => exact .inr ⟨conflict_of_flag respects flagged _, _, rfl, rfl⟩
  | none =>
      have overUse := Cursor.tokens_skip split (List.append_ne_nil_of_right_ne_nil _
        (concludes.detached_behind later).ne_nil)
      have overOperand := Cursor.tokens_skip overUse (concludes.detached_behind later).ne_nil
      dsimp only
      rw [use.operands_eq operators a g.tree overUse (concludes.detached_behind later) (by omega)]
      -- The right operand is a climb of its own, on the rest of the row.
      have inner := shorter later (Nat.le_refl _) (.operand a) use.definition.rightLimit _ more trivial
        (Grouping.tight_operand a _) (Grouping.precedes_operand a later) overOperand (by omega)
      rw [use.rightLimit_eq operators] at inner
      rcases inner with ⟨taken, rest, right, climbs, reading⟩ | ⟨conflict, e, failing, code⟩
      case inr =>
        have failing : climb r more use.definition.rightLimit a.tree none _ = .error e := failing
        rw [failing]
        refine .inr ⟨?_, e, rfl, code⟩
        have behind : Conflict (later.map Prod.fst) := conflict
        simpa using behind.append_left (g.uses ++ [use])
      have reading : climb r more use.definition.rightLimit a.tree none _ = .ok (right.tree, _) := reading
      rw [reading]
      have onward : (((c.skip use.tokens.length).skip a.tokens.length).skip (Row.tokensOf taken).length).tokens =
          Row.tokensOf rest ++ tail := by
        rw [climbs.split, Row.tokensOf_append, List.append_assoc] at overOperand
        exact Cursor.tokens_skip overOperand (concludes.detached_behind rest).ne_nil
      have fewer : rest.length ≤ later.length := by
        rw [climbs.split, List.length_append]
        exact Nat.le_add_left _ _
      have sameUses : g.uses ++ ((use, a) :: later).map Prod.fst =
          (Grouping.operation g use right).uses ++ rest.map Prod.fst := by
        rw [Grouping.uses_operation, climbs.uses, climbs.split]
        simp
      have remaining : (Row.tokensOf rest).length ≤ (Row.tokensOf later).length := by
        rw [climbs.split, Row.tokensOf_append, List.length_append]
        exact Nat.le_add_left _ _
      rcases shorter rest fewer (.operation g use right) least _ (more + 2)
        (respects_operation respects precedes flagged climbs.respects climbs.tight)
        (fun root top => by cases top; exact Nat.le_of_not_lt loose)
        (fun root top => by cases top; exact climbs.loose) onward (by omega) with
        ⟨taken', rest', result, climbs', reading'⟩ | ⟨conflict, e, failing, code⟩
      · refine .inl ⟨(use, a) :: taken ++ taken', rest', result, climbs.after climbs', ?_⟩
        refine reading'.trans ?_
        rw [Row.tokensOf_append, Row.tokensOf_cons]
        simp only [Cursor.skip_skip, List.length_append]
        congr 4
        omega
      · exact .inr ⟨sameUses ▸ conflict, e, failing, code⟩

theorem settles (operators : BinaryOnly r.operators) {tail : List Token} (concludes : Concludes r tail)
    (count : Nat) (later : List (OperatorUse r × Operand r)) (fewer : later.length ≤ count) :
    Settles r tail later := by
  induction count generalizing later with
  | zero =>
      obtain rfl := List.length_eq_zero_iff.mp (Nat.le_zero.mp fewer)
      exact settles_nil concludes
  | succ count ih =>
      cases later with
      | nil => exact settles_nil concludes
      | cons pair later =>
          exact settles_cons operators concludes pair.1 pair.2 fun rest shorter =>
            ih rest (shorter.trans (Nat.le_of_succ_le_succ fewer))

theorem expression_eq_climb (first : Operand r) (later : List (OperatorUse r × Operand r)) {tail : List Token}
    (concludes : Concludes r tail) (c : Cursor) (split : c.tokens = first.tokens ++ (Row.tokensOf later ++ tail)) :
    ∃ budget, 8 * (Row.tokensOf later).length + 1 ≤ budget ∧
      expression r c = climb r budget 0 first.tree none (c.skip first.tokens.length) := by
  have behind := concludes.detached_behind later
  have some_token : 0 < tail.length := List.length_pos_iff.mpr concludes.1.ne_nil
  have length := congrArg List.length split
  rw [← c.later_length, List.length_append, List.length_append] at length
  refine ⟨8 * c.stream.later.length + 15, by omega, ?_⟩
  rw [expression, Cursor.budget, Nat.mul_add, binary, first.unary split behind (by omega)]
  rfl

theorem row_settles (operators : BinaryOnly r.operators) (row : Row r) {tail : List Token}
    (concludes : Concludes r tail) (c : Cursor) (split : c.tokens = row.tokens ++ tail) :
    (∃ g : Grouping r, g.inOrder = row ∧ g.Respects ∧
      expression r c = .ok (g.tree, c.skip row.tokens.length)) ∨
    (Conflict row.uses ∧ ∃ e, expression r c = .error e ∧ e.code = .chainedOperator) := by
  have split : c.tokens = row.first.tokens ++ (Row.tokensOf row.later ++ tail) := by
    rw [split, Row.tokens, List.append_assoc]
  obtain ⟨budget, enough, start⟩ := expression_eq_climb row.first row.later concludes c split
  have onward := Cursor.tokens_skip split (concludes.detached_behind row.later).ne_nil
  rw [start]
  rcases settles operators concludes _ row.later (Nat.le_refl _) (.operand row.first) 0 _ budget trivial
    (Grouping.tight_operand row.first _) (Grouping.precedes_operand row.first row.later) onward enough with
    ⟨taken, rest, g, climbs, reading⟩ | ⟨conflict, failing⟩
  · -- Nothing binds more loosely than the lowest level, so the whole row is taken.
    have everything : rest = [] := by
      cases rest with
      | nil => rfl
      | cons pair rest => exact absurd (climbs.loose pair rfl) (Nat.not_lt_zero _)
    have covered : taken = row.later := by rw [climbs.split, everything, List.append_nil]
    have sameFirst : g.first = row.first := climbs.first
    have sameLater : g.later = taken := climbs.later
    refine .inl ⟨g, ?_, climbs.respects, reading.trans ?_⟩
    · rw [Grouping.inOrder, sameFirst, sameLater, covered]
    · rw [covered, Cursor.skip_skip, Row.tokens, List.length_append]
  · exact .inr ⟨conflict, failing⟩

/-- Precedence climbing builds the one grouping of a row that respects its operators, and fails exactly
where operators conflict. -/
theorem expression_groups_row (operators : BinaryOnly r.operators) (row : Row r) {tail : List Token}
    (concludes : Concludes r tail) (c : Cursor) (split : c.tokens = row.tokens ++ tail) :
    ((∃ g : Grouping r, g.inOrder = row ∧ g.Respects ∧
        (∀ other : Grouping r, other.inOrder = row → other.Respects → other = g) ∧
        expression r c = .ok (g.tree, c.skip row.tokens.length)) ∨
      ∃ e, expression r c = .error e ∧ e.code = .chainedOperator) ∧
    ((∃ e, expression r c = .error e) ↔ Conflict row.uses) := by
  rcases row_settles operators row concludes c split with ⟨g, rfl, respects, reading⟩ | ⟨conflict, e, failing, code⟩
  · refine ⟨.inl ⟨g, rfl, respects, ?_, reading⟩, ?_⟩
    · intro other same otherRespects
      exact otherRespects.unique respects same
    · constructor
      · rintro ⟨e, failing⟩
        rw [reading] at failing
        cases failing
      · intro conflict
        exact (respects.no_conflict conflict).elim
  · exact ⟨.inr ⟨e, failing, code⟩, fun _ => conflict, fun _ => ⟨e, failing⟩⟩

def mixedRegistries : Registries where
  operators :=
    [Core.binary "subtract" ["-"] 40 "sub", ⟨"power", ["**"], 80, .right, .binary, .binary "pow"⟩,
      Core.isIn.negated "not in" ["not in"]].foldl (fun registry definition => (registry.register definition).1) {}

theorem mixedRegistries_binaryOnly : BinaryOnly mixedRegistries.operators where
  built := .register _ (.register _ (.register _ .empty))
  arity := by decide +kernel
  precedence := by decide +kernel

/-- The row `12 - xy ** (7) not in "ab" - 3`. -/
def mixedRow : Row mixedRegistries where
  first := ⟨[⟨.literal, "12", 1⟩], .data (.int 12) 1 {}, .literal rfl rfl⟩
  later :=
    let minus : OperatorUse mixedRegistries :=
      ⟨0, Core.binary "subtract" ["-"] 40 "sub", ⟨.operator, "-", 1⟩, [], rfl, ⟨"-", by decide +kernel⟩, by decide⟩
    [(minus, ⟨[⟨.identifier, "xy", 1⟩], .variable "xy" 1 {}, .identifier rfl (by decide)⟩),
      (⟨1, ⟨"power", ["**"], 80, .right, .binary, .binary "pow"⟩, ⟨.operator, "**", 1⟩, [], rfl,
        ⟨"**", by decide +kernel⟩, by decide⟩,
        ⟨⟨.punctuation, "(", 1⟩ :: [⟨.literal, "7", 1⟩] ++ [⟨.punctuation, ")", 1⟩], .data (.int 7) 1 {},
          .group rfl rfl ⟨_, rfl, rfl⟩⟩),
      (⟨2, Core.isIn.negated "not in" ["not in"], ⟨.operator, "not", 1⟩, [⟨.operator, "in", 1⟩], rfl,
        ⟨"not in", by decide +kernel⟩, by decide⟩,
        ⟨[⟨.string, "ab", 1⟩], .data (.string "ab") 1 {}, .string rfl⟩),
      (minus, ⟨[⟨.literal, "3", 1⟩], .data (.int 3) 1 {}, .literal rfl rfl⟩)]

def mixedStart : Cursor where
  stream := .ofTokens (mixedRow.tokens ++ [.eof 1])

theorem concludes_eof : Concludes mixedRegistries [.eof 1] :=
  ⟨⟨_, _, rfl, by decide⟩, rfl, by decide⟩

theorem expression_groups_mixedRow :
    BinaryOnly mixedRegistries.operators ∧ Concludes mixedRegistries [.eof 1] ∧
      mixedStart.tokens = mixedRow.tokens ++ [.eof 1] ∧
      ((∃ g : Grouping mixedRegistries, g.inOrder = mixedRow ∧ g.Respects ∧
          (∀ other : Grouping mixedRegistries, other.inOrder = mixedRow → other.Respects → other = g) ∧
          expression mixedRegistries mixedStart = .ok (g.tree, mixedStart.skip mixedRow.tokens.length)) ∨
        ∃ e, expression mixedRegistries mixedStart = .error e ∧ e.code = .chainedOperator) ∧
      ((∃ e, expression mixedRegistries mixedStart = .error e) ↔ Conflict mixedRow.uses) :=
  ⟨mixedRegistries_binaryOnly, concludes_eof, tokens_ofTokens rfl,
    expression_groups_row mixedRegistries_binaryOnly mixedRow concludes_eof mixedStart (tokens_ofTokens rfl)⟩

end Templating.Parse
