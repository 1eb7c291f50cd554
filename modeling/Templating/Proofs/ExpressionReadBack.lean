import Templating.Proofs.ExpressionWriting
import Templating.Proofs.Precedence
import Templating.Proofs.Registration
import Templating.Proofs.WordTexts
import Templating.Parse.Template

/-! # Reading back what is written

Every written form of an expression is read as that expression, up to the lines of its nodes. The words of
an operator stand in front of a bracket or of the end, so the longest alias there is the one that was
written, whatever other aliases there are.
-/

namespace Templating.Parse

variable {r : Registries} {tree : Tree} {tokens : List Token}

theorem Ends.concludes {token : Token} (ends : Ends token) (rest : List Token) : Concludes r (token :: rest) := by
  refine ⟨⟨token, rest, rfl, ends.2⟩, ?_, ?_⟩
  · rw [OperatorRegistry.binaryAt?, OperatorRegistry.matchBinary, AliasTrie.longestMatch_of_not_operator ends.1]
    rfl
  · intro other first isOperator
    cases first
    exact absurd isOperator ends.1

theorem ends_eof : Ends (.eof 1) :=
  .of_kind nofun nofun

/-- An operand alone in front of an end, as the operand of any operator. -/
theorem Operand.binary (a : Operand r) {c : Cursor} {token : Token} {rest : List Token}
    (split : c.tokens = a.tokens ++ token :: rest) (ends : Ends token) {budget : Nat}
    (enough : 8 * a.tokens.length + 3 ≤ budget) (least : UInt8) :
    binary r budget least c = .ok (a.tree, c.skip a.tokens.length) := by
  obtain ⟨more, rfl⟩ : ∃ more, budget = more + 1 + 1 := ⟨budget - 2, by omega⟩
  have concludes := ends.concludes (r := r) rest
  rw [Parse.binary, a.unary split concludes.1 (by omega)]
  exact concludes.climb (Cursor.tokens_skip split (List.cons_ne_nil _ _)) more least a.tree none

theorem readsWhole_of_unary
    (reads : ∀ (c : Cursor) (budget : Nat), c.tokens = tokens ++ [.eof 1] → 8 * tokens.length + 2 ≤ budget →
      unary r budget c = .ok (tree, c.skip tokens.length)) : ReadsWhole r tokens tree := by
  have start : Cursor.tokens { stream := .ofTokens (tokens ++ [.eof 1]) } = tokens ++ [.eof 1] :=
    tokens_ofTokens rfl
  have behind := Cursor.tokens_skip start (List.cons_ne_nil _ _)
  have length := congrArg List.length start
  rw [← Cursor.later_length, List.length_append, List.length_singleton] at length
  refine ⟨_, ?_, behind⟩
  rw [expression, Cursor.budget, Nat.mul_add, binary, reads _ _ start (by omega)]
  dsimp only [ok_bind]
  exact (ends_eof.concludes []).climb behind _ _ _ _

theorem readsWhole_of_primary {token : Token} {rest : List Token} (notOperator : token.kind ≠ .operator)
    (reads : ∀ (c : Cursor) (budget : Nat), c.tokens = (token :: rest) ++ [.eof 1] →
      8 * (rest.length + 1) ≤ budget → primary r (budget + 1) c = .ok (tree, c.skip (rest.length + 1))) :
    ReadsWhole r (token :: rest) tree := by
  refine readsWhole_of_unary fun c budget split enough => ?_
  rw [List.length_cons] at enough
  obtain ⟨more, rfl⟩ : ∃ more, budget = more + 1 + 1 := ⟨budget - 2, by omega⟩
  have unmatched : r.operators.unaryAt? c.stream.remaining = none := by
    rw [OperatorRegistry.unaryAt?, OperatorRegistry.matchUnary, ← Cursor.tokens, split, List.cons_append,
      AliasTrie.longestMatch_of_not_operator notOperator]
    rfl
  have behind := Cursor.tokens_skip split (List.cons_ne_nil _ _)
  rw [unary, unmatched]
  dsimp only
  rw [reads c more split (by omega)]
  exact Detached.trailers (behind.symm ▸ (ends_eof.concludes (r := r) []).1) more tree

theorem Operand.readsWhole (a : Operand r) : ReadsWhole r a.tokens a.tree :=
  readsWhole_of_unary fun _ _ split enough => a.unary split (ends_eof.concludes (r := r) []).1 enough

theorem Enclosed.isOperand {inner : List Token} (enclosed : Enclosed "(" ")" inner tokens)
    (whole : ReadsWhole r inner tree) : IsOperand r tokens tree := by
  obtain ⟨opening, closing, opens, closes, rfl⟩ := enclosed
  exact .group opens closes whole

variable {id : Nat} {definition : OperatorDefinition} {words : List Token}

theorem Spells.found (spells : Spells definition words) (built : r.operators.Built)
    (registered : r.operators.get? id = some definition) {token : Token} (ending : token.kind ≠ .operator)
    (tail : List Token) :
    r.operators.resolve? ((r.operators.table definition.arity.fixity).longestMatch (words ++ token :: tail)) =
      some ⟨id, definition, words.length⟩ := by
  obtain ⟨spelling, listed, spelled⟩ := spells.listed
  have known := built.knowsAliases id definition registered spelling listed
  rw [← spelled] at known
  rw [AliasTrie.longestMatch_alias ending spells.isOperator spells.ne_nil known, OperatorRegistry.resolve?,
    Option.bind_some, registered]
  rfl

theorem Spells.readsWhole_before (spells : Spells definition words) (built : r.operators.Built)
    (registered : r.operators.get? id = some definition) (arity : definition.arity = .unaryPrefix) (a : Operand r) :
    ∃ line, ReadsWhole r (words ++ a.tokens) (.operator id none none (some a.tree) line {}) := by
  obtain ⟨word, rest, rfl⟩ := List.exists_cons_of_ne_nil spells.ne_nil
  obtain ⟨first, others, head, notOperator⟩ := a.isOperand.head
  refine ⟨word.line, readsWhole_of_unary fun c budget split enough => ?_⟩
  rw [List.length_append, List.length_cons] at enough
  obtain ⟨more, rfl⟩ : ∃ more, budget = more + 1 := ⟨budget - 1, by omega⟩
  have split : c.tokens = (word :: rest) ++ (a.tokens ++ [.eof 1]) := by rw [split, List.append_assoc]
  have found : r.operators.unaryAt? c.stream.remaining = some ⟨id, definition, (word :: rest).length⟩ := by
    have matched := spells.found built registered notOperator (others ++ [.eof 1])
    rw [arity] at matched
    rw [← Cursor.tokens, split, head]
    exact matched
  have behind := Cursor.tokens_skip split (by simp)
  rw [unary, found]
  dsimp only
  rw [a.binary behind ends_eof (by omega), Cursor.skip_skip, Cursor.current_eq split, List.length_append]
  rfl

theorem Operand.readsWhole_climb (a : Operand r) {back : List Token} (detached : Detached (back ++ [.eof 1]))
    (climbs : ∀ (c : Cursor) (budget : Nat), c.tokens = back ++ [.eof 1] → 8 * back.length + 8 ≤ budget →
      climb r budget 0 a.tree none c = .ok (tree, c.skip back.length)) : ReadsWhole r (a.tokens ++ back) tree := by
  have start : Cursor.tokens { stream := .ofTokens (a.tokens ++ back ++ [.eof 1]) } = a.tokens ++ (back ++ [.eof 1]) := by
    rw [tokens_ofTokens rfl, List.append_assoc]
  have between := Cursor.tokens_skip start detached.ne_nil
  have behind := Cursor.tokens_skip between (List.cons_ne_nil _ _)
  have length := congrArg List.length start
  rw [← Cursor.later_length, List.length_append, List.length_append, List.length_singleton] at length
  refine ⟨_, ?_, behind⟩
  rw [expression, Cursor.budget, Nat.mul_add, Parse.binary, a.unary start detached (by omega)]
  exact climbs _ _ between (by omega)

theorem Spells.detached (spells : Spells definition words) (tail : List Token) : Detached (words ++ tail) := by
  obtain ⟨word, others, rfl⟩ := List.exists_cons_of_ne_nil spells.ne_nil
  refine ⟨word, others ++ tail, rfl, fun text _ => ?_⟩
  rw [Token.isPunctuation, spells.isOperator word List.mem_cons_self]
  rfl

/-- An operand, the words of an operator and the operands that the operator takes behind them. -/
theorem Spells.readsWhole_behind (spells : Spells definition words) (built : r.operators.Built)
    (registered : r.operators.get? id = some definition) (place : definition.arity.fixity = .binary) (a : Operand r)
    (back : List Token) (ahead : ∀ token ∈ back.head?, token.kind ≠ .operator) (node : Nat → Tree)
    (takes : ∀ (line budget : Nat) (c : Cursor), c.tokens = back ++ [.eof 1] → 8 * back.length + 4 ≤ budget →
      operands r budget ⟨id, definition, words.length⟩ a.tree line c = .ok (node line, c.skip back.length)) :
    ∃ line, ReadsWhole r (a.tokens ++ (words ++ back)) (node line) := by
  obtain ⟨word, others, rfl⟩ := List.exists_cons_of_ne_nil spells.ne_nil
  have found : ∀ c : Cursor, c.tokens = (word :: others) ++ (back ++ [.eof 1]) →
      r.operators.binaryAt? c.stream.remaining = some ⟨id, definition, (word :: others).length⟩ := by
    intro c split
    rw [← Cursor.tokens, split]
    cases back with
    | nil =>
        have matched := spells.found built registered ends_eof.1 []
        rw [place] at matched
        exact matched
    | cons first rest =>
        have matched := spells.found built registered (ahead first rfl) (rest ++ [.eof 1])
        rw [place] at matched
        exact matched
  refine ⟨word.line, a.readsWhole_climb (by rw [List.append_assoc]; exact spells.detached _) ?_⟩
  intro c budget split enough
  rw [List.append_assoc] at split
  rw [List.length_append] at enough ⊢
  obtain ⟨more, rfl⟩ : ∃ more, budget = more + 1 + 1 := ⟨budget - 2, by omega⟩
  have between := Cursor.tokens_skip split (by simp)
  have behind := Cursor.tokens_skip between (List.cons_ne_nil _ _)
  rw [climb, found c split]
  dsimp only [Option.filter_none]
  rw [if_neg (by exact Nat.not_lt_zero _), takes _ _ _ between (by omega), Cursor.current_eq split]
  dsimp only [ok_bind]
  rw [(ends_eof.concludes []).climb behind, Cursor.skip_skip]

theorem Operand.head_append (a : Operand r) (tail : List Token) :
    ∀ token ∈ (a.tokens ++ tail).head?, token.kind ≠ .operator := by
  obtain ⟨first, rest, head, notOperator⟩ := a.isOperand.head
  rw [head]
  intro token isFirst
  cases isFirst
  exact notOperator

section

variable {length : Nat}

theorem operands_alone (arity : definition.arity = .test false) (left : Tree) :
    ∀ (line budget : Nat) (c : Cursor), c.tokens = [] ++ [.eof 1] → 8 * 0 + 4 ≤ budget →
      operands r budget ⟨id, definition, length⟩ left line c =
        .ok (.operator id (some left) none none line {}, c.skip 0) := by
  intro line budget c _ enough
  obtain ⟨more, rfl⟩ : ∃ more, budget = more + 1 := ⟨budget - 1, by omega⟩
  simp only [operands, arity]
  rfl

theorem Operand.operands_between (a : Operand r) (arity : definition.arity = .binary ∨ definition.arity = .test true)
    (left : Tree) :
    ∀ (line budget : Nat) (c : Cursor), c.tokens = a.tokens ++ [.eof 1] → 8 * a.tokens.length + 4 ≤ budget →
      operands r budget ⟨id, definition, length⟩ left line c =
        .ok (.operator id (some left) none (some a.tree) line {}, c.skip a.tokens.length) := by
  intro line budget c split enough
  obtain ⟨more, rfl⟩ : ∃ more, budget = more + 1 := ⟨budget - 1, by omega⟩
  rcases arity with arity | arity
  · simp only [operands, arity]
    rw [a.binary split ends_eof (by omega)]
    rfl
  · simp only [operands, arity]
    rw [a.binary split ends_eof (by omega)]
    rfl

theorem Operand.operands_choice (second third : Operand r) {colon : Token} (isColon : colon.isPunctuation ":" = true)
    (arity : definition.arity = .ternary) (left : Tree) :
    ∀ (line budget : Nat) (c : Cursor), c.tokens = (second.tokens ++ colon :: third.tokens) ++ [.eof 1] →
      8 * (second.tokens ++ colon :: third.tokens).length + 4 ≤ budget →
      operands r budget ⟨id, definition, length⟩ left line c =
        .ok (.operator id (some left) (some second.tree) (some third.tree) line {},
          c.skip (second.tokens ++ colon :: third.tokens).length) := by
  intro line budget c split enough
  rw [List.length_append, List.length_cons] at enough ⊢
  obtain ⟨more, rfl⟩ : ∃ more, budget = more + 1 := ⟨budget - 1, by omega⟩
  have split : c.tokens = second.tokens ++ colon :: (third.tokens ++ [.eof 1]) := by simpa using split
  have between := Cursor.tokens_skip split (List.cons_ne_nil _ _)
  have behind : (c.skip second.tokens.length).next.tokens = third.tokens ++ [.eof 1] :=
    Cursor.tokens_next between (by simp)
  have fits : TokenStream.fits (c.skip second.tokens.length).current .punctuation (some ":") = true := by
    rw [Cursor.current_eq between]
    exact isColon
  simp only [operands, arity]
  rw [second.binary split (.of_punctuation isColon (by decide)) (by omega)]
  dsimp only [ok_bind]
  rw [Cursor.expect_of_fits fits]
  dsimp only [ok_bind]
  rw [third.binary behind ends_eof (by omega), Cursor.skip_next, Cursor.skip_skip]
  dsimp only [ok_bind, pure_eq_ok]
  congr 3
  omega

end

theorem ReadsWhole.head (whole : ReadsWhole r tokens tree) :
    ∃ token rest, tokens = token :: rest ∧ TokenPattern.beginsExpression token = true := by
  obtain ⟨last, reading, -⟩ := whole
  have begins := beginsExpression_of_expression reading
  have start : Cursor.tokens { stream := .ofTokens (tokens ++ [.eof 1]) } = tokens ++ [.eof 1] :=
    tokens_ofTokens rfl
  cases tokens with
  | nil =>
      rw [Cursor.current_eq start] at begins
      cases begins
  | cons token rest =>
      rw [Cursor.current_eq start] at begins
      exact ⟨token, rest, rfl, begins⟩

theorem not_accepts_closer {token : Token} (begins : TokenPattern.beginsExpression token = true) {text : String}
    (closes : text ∈ [")", "]"]) : (TokenPattern.exact .punctuation text).accepts token = false := by
  rw [TokenPattern.accepts, Bool.and_eq_false_imp]
  intro isPunctuation
  rw [TokenPattern.beginsExpression, beq_iff_eq.mp isPunctuation] at begins
  rw [beq_eq_false_iff_ne]
  rintro rfl
  simp only [Bool.or_eq_true, beq_iff_eq] at begins
  rcases begins with same | same <;> rw [same] at closes <;> revert closes <;> decide

theorem Separated.items {parts : List (List Token)} {trees : List Tree} (separated : Separated parts tokens)
    (wholes : List.Forall₂ (ReadsWhole r) parts trees) {text : String} (closes : text ∈ [")", "]"])
    {closing : Token} (isCloser : closing.isPunctuation text = true) {c : Cursor} {tail : List Token}
    (split : c.tokens = tokens ++ closing :: tail) {budget : Nat} (enough : 8 * tokens.length + 4 ≤ budget) :
    items r budget (.exact .punctuation text) c = .ok (trees, c.skip tokens.length) := by
  have notOpener : text ∉ ["(", "[", "."] := by
    simp only [List.mem_cons, List.not_mem_nil, or_false] at closes ⊢
    rcases closes with rfl | rfl <;> decide
  have accepted : (TokenPattern.exact .punctuation text).accepts closing = true := isCloser
  induction separated generalizing trees c budget with
  | nil =>
      cases wholes
      obtain ⟨more, rfl⟩ : ∃ more, budget = more + 1 := ⟨budget - 1, by omega⟩
      rw [Parse.items, Cursor.current_eq split, if_pos accepted]
      rfl
  | @one part =>
      cases wholes with
      | cons whole rest =>
      cases rest
      obtain ⟨more, rfl⟩ : ∃ more, budget = more + 1 := ⟨budget - 1, by omega⟩
      obtain ⟨first, others, rfl, begins⟩ := whole.head
      have noComma : (c.skip (first :: others).length).current.isPunctuation "," = false := by
        rw [Cursor.current_skip split, Token.isPunctuation, (Token.isPunctuation_iff.mp isCloser).2]
        simp only [List.mem_cons, List.not_mem_nil, or_false] at closes
        rcases closes with rfl | rfl <;> exact Bool.and_false _
      rw [Parse.items, Cursor.current_eq split, not_accepts_closer begins closes, if_neg Bool.false_ne_true,
        whole.binary split (.of_punctuation isCloser notOpener) (by omega)]
      dsimp only [ok_bind]
      rw [noComma]
      rfl
  | @more part second rest parts comma isComma _ ih =>
      cases wholes with
      | cons whole wholes =>
      obtain ⟨more, rfl⟩ : ∃ more, budget = more + 1 := ⟨budget - 1, by omega⟩
      have split : c.tokens = part ++ comma :: (rest ++ closing :: tail) := by rw [split]; simp
      have between : (c.skip part.length).next.tokens = rest ++ closing :: tail :=
        Cursor.tokens_next (Cursor.tokens_skip split (List.cons_ne_nil _ _)) (by simp)
      obtain ⟨first, others, rfl, begins⟩ := whole.head
      simp only [List.length_append, List.length_cons] at enough ⊢
      rw [Parse.items, Cursor.current_eq split, not_accepts_closer begins closes, if_neg Bool.false_ne_true,
        whole.binary split (.of_punctuation isComma (by decide)) (by rw [List.length_cons]; omega)]
      dsimp only [ok_bind]
      rw [Cursor.current_skip split, isComma, if_pos rfl, ih wholes between (by omega)]
      dsimp only [ok_bind, pure_eq_ok]
      rw [Cursor.skip_next, Cursor.skip_skip, List.length_cons]
      congr 3
      omega

theorem Separated.arguments {parts : List (List Token)} {trees : List Tree} (separated : Separated parts tokens)
    (wholes : List.Forall₂ (ReadsWhole r) parts trees) {text : String} (closes : text ∈ [")", "]"])
    {closing : Token} (isCloser : closing.isPunctuation text = true) (label : String) {c : Cursor} {tail : List Token}
    (split : c.tokens = tokens ++ closing :: tail) {budget : Nat} (enough : 8 * tokens.length + 5 ≤ budget) :
    arguments r budget label (.exact .punctuation text) c = .ok (trees, c.skip (tokens.length + 1)) := by
  obtain ⟨more, rfl⟩ : ∃ more, budget = more + 1 := ⟨budget - 1, by omega⟩
  have entered : (c.enter .argumentList label c.current.line).tokens = tokens ++ closing :: tail := split
  have accepted : (TokenPattern.exact .punctuation text).accepts (c.skip tokens.length).current = true := by
    rw [Cursor.current_skip split]
    exact isCloser
  rw [Parse.arguments, separated.items wholes closes isCloser entered (by omega), Cursor.skip_enter]
  dsimp only [ok_bind]
  rw [Cursor.close_enter accepted, Cursor.skip_next]
  rfl

theorem Separated.readsWhole_list {parts : List (List Token)} {trees : List Tree} {inner : List Token}
    (separated : Separated parts inner) (wholes : List.Forall₂ (ReadsWhole r) parts trees)
    (enclosed : Enclosed "[" "]" inner tokens) : ∃ line, ReadsWhole r tokens (.list trees line {}) := by
  obtain ⟨opening, closing, opens, closes, rfl⟩ := enclosed
  obtain ⟨isPunctuation, text⟩ := Token.isPunctuation_iff.mp opens
  refine ⟨opening.line, readsWhole_of_primary (by rw [isPunctuation]; decide) ?_⟩
  intro c budget split enough
  rw [List.length_append, List.length_singleton] at enough ⊢
  have bracketed : c.tokens = opening :: (inner ++ closing :: [.eof 1]) := by simpa using split
  have behind : c.next.tokens = inner ++ closing :: [.eof 1] := Cursor.tokens_next bracketed (by simp)
  have unnamed : isName opening = false := by
    rw [isName, isPunctuation]
    rfl
  have notGroup : opening.isPunctuation "(" = false := by
    rw [Token.isPunctuation, text]
    exact Bool.and_false _
  rw [primary, Cursor.current_eq split]
  dsimp only
  rw [isPunctuation, unnamed, opens, notGroup, closeBracket,
    separated.arguments wholes (by decide) closes "[" behind (by omega)]
  rw [Cursor.next_skip]
  dsimp only [ok_bind]
  rw [if_neg (by decide), if_neg (by decide), if_neg (by decide), if_neg (by decide), if_pos rfl,
    show 1 + (inner.length + 1) = inner.length + 1 + 1 by omega]
  rfl

theorem Calls.callee_eq {name : String} {called : Callee} (calls : Calls r name called) :
    callee r name none = called := by
  cases calls with
  | resolved known => simp only [callee, known]
  | named unknown => simp only [callee, unknown]

theorem Identifies.isName {name : String} {token : Token} (identifies : Identifies name token) :
    isName token = true := by
  obtain ⟨isIdentifier, rfl, wordLike⟩ := identifies
  rw [Parse.isName, isIdentifier, wordLike]
  rfl

theorem Separated.readsWhole_call {parts : List (List Token)} {trees : List Tree} {inner : List Token}
    (separated : Separated parts inner) (wholes : List.Forall₂ (ReadsWhole r) parts trees)
    (enclosed : Enclosed "(" ")" inner tokens) {name : String} {token : Token} (identifies : Identifies name token) :
    ∃ line, ReadsWhole r (token :: tokens) (.call (callee r name none) none trees line {}) := by
  obtain ⟨opening, closing, opens, closes, rfl⟩ := enclosed
  have named := identifies.isName
  obtain ⟨isIdentifier, rfl, -⟩ := identifies
  refine ⟨token.line, readsWhole_of_primary (by rw [isIdentifier]; decide) ?_⟩
  intro c budget split enough
  rw [List.length_cons, List.length_append, List.length_singleton] at enough ⊢
  have bracketed : c.tokens = token :: opening :: (inner ++ closing :: [.eof 1]) := by simpa using split
  have next : c.next.tokens = opening :: (inner ++ closing :: [.eof 1]) := Cursor.tokens_next bracketed (by simp)
  have behind : c.next.next.tokens = inner ++ closing :: [.eof 1] := Cursor.tokens_next next (by simp)
  rw [primary, Cursor.current_eq split, Cursor.current_eq next]
  dsimp only
  rw [isIdentifier, named, opens, closeParen, separated.arguments wholes (by decide) closes "(" behind (by omega)]
  rw [Cursor.next_skip, Cursor.next_skip]
  dsimp only [ok_bind]
  rw [if_neg (by decide), if_neg (by decide), if_pos rfl, if_pos rfl,
    show 1 + (1 + (inner.length + 1)) = inner.length + 1 + 1 + 1 by omega]
  rfl

section

variable {inner front back : List Token} {base : Tree}

theorem Enclosed.readsWhole_trailers (enclosed : Enclosed "(" ")" inner front) (whole : ReadsWhole r inner base)
    (trails : ∀ (c : Cursor) (budget : Nat), c.tokens = back ++ [.eof 1] → 8 * back.length ≤ budget →
      trailers r (budget + 1) base c = .ok (tree, c.skip back.length)) : ReadsWhole r (front ++ back) tree := by
  obtain ⟨opening, closing, opens, closes, rfl⟩ := enclosed
  have notOperator : opening.kind ≠ .operator := by
    rw [(Token.isPunctuation_iff.mp opens).1]
    decide
  refine readsWhole_of_unary fun c budget split enough => ?_
  simp only [List.cons_append, List.length_cons, List.length_append, List.length_nil] at enough ⊢
  obtain ⟨more, rfl⟩ : ∃ more, budget = more + 1 + 1 := ⟨budget - 2, by omega⟩
  have split : c.tokens = opening :: (inner ++ closing :: (back ++ [.eof 1])) := by simpa using split
  have unmatched : r.operators.unaryAt? c.stream.remaining = none := by
    rw [OperatorRegistry.unaryAt?, OperatorRegistry.matchUnary, ← Cursor.tokens, split,
      AliasTrie.longestMatch_of_not_operator notOperator]
    rfl
  have behind : (c.skip (inner.length + 2)).tokens = back ++ [.eof 1] := by
    have parted : c.tokens = (opening :: (inner ++ [closing])) ++ (back ++ [.eof 1]) := by simpa using split
    have skipped := Cursor.tokens_skip parted (by simp)
    rwa [List.length_cons, List.length_append, List.length_singleton] at skipped
  rw [unary, unmatched]
  dsimp only
  rw [whole.primary_group opens closes split (by omega), ok_bind]
  dsimp only
  rw [trails _ more behind (by omega), Cursor.skip_skip]
  congr 3
  omega

theorem trailers_at_end {c : Cursor} (ending : c.tokens = [.eof 1]) (budget : Nat) (base : Tree) :
    trailers r (budget + 1) base c = .ok (base, c) :=
  Detached.trailers (ending.symm ▸ (ends_eof.concludes (r := r) []).1) budget base

theorem Enclosed.readsWhole_index (enclosed : Enclosed "(" ")" inner front) (whole : ReadsWhole r inner base)
    {within : List Token} {key : Tree} (bracketed : Enclosed "[" "]" within back) (keyWhole : ReadsWhole r within key) :
    ∃ line, ReadsWhole r (front ++ back) (.index base key line {}) := by
  obtain ⟨opening, closing, opens, closes, rfl⟩ := bracketed
  refine ⟨opening.line, enclosed.readsWhole_trailers whole fun c budget split enough => ?_⟩
  simp only [List.length_cons, List.length_append, List.length_nil] at enough ⊢
  obtain ⟨more, rfl⟩ : ∃ more, budget = more + 1 := ⟨budget - 1, by omega⟩
  have split : c.tokens = opening :: (within ++ closing :: [.eof 1]) := by simpa using split
  have behind : c.next.tokens = within ++ closing :: [.eof 1] := Cursor.tokens_next split (by simp)
  have entered : (c.next.enter .array "[" opening.line).tokens = within ++ closing :: [.eof 1] := behind
  have accepted : closeBracket.accepts (c.next.skip within.length).current = true := by
    rw [Cursor.current_skip behind]
    exact closes
  have last : (c.next.skip within.length).next.tokens = [.eof 1] :=
    Cursor.tokens_next (Cursor.tokens_skip behind (List.cons_ne_nil _ _)) (List.cons_ne_nil _ _)
  rw [trailers, Cursor.current_eq split]
  dsimp only
  rw [opens, if_pos rfl, keyWhole.binary entered (.of_punctuation closes (by decide)) (by omega), Cursor.skip_enter]
  dsimp only [ok_bind]
  rw [Cursor.close_enter accepted, ok_bind, trailers_at_end last, Cursor.next_skip, Cursor.skip_next]
  congr 3
  omega

theorem not_index_of_dot {dot : Token} (isDot : dot.isPunctuation "." = true) : dot.isPunctuation "[" = false := by
  rw [Token.isPunctuation, (Token.isPunctuation_iff.mp isDot).2]
  exact Bool.and_false _

theorem Enclosed.readsWhole_attribute (enclosed : Enclosed "(" ")" inner front) (whole : ReadsWhole r inner base)
    {dot token : Token} {name : String} (isDot : dot.isPunctuation "." = true) (identifies : Identifies name token) :
    ∃ line inside, ReadsWhole r (front ++ [dot, token]) (.index base (.identifier name inside {}) line {}) := by
  have named := identifies.isName
  obtain ⟨-, rfl, -⟩ := identifies
  refine ⟨dot.line, token.line, enclosed.readsWhole_trailers whole fun c budget split enough => ?_⟩
  rw [List.length_cons, List.length_singleton] at enough
  obtain ⟨more, rfl⟩ : ∃ more, budget = more + 1 := ⟨budget - 1, by omega⟩
  have next : c.next.tokens = token :: [.eof 1] := Cursor.tokens_next split (by simp)
  have last : c.next.next.tokens = [.eof 1] := Cursor.tokens_next next (by simp)
  rw [trailers, Cursor.current_eq split, Cursor.current_eq next]
  dsimp only
  rw [Cursor.current_eq last, not_index_of_dot isDot, isDot, named, if_neg Bool.false_ne_true, if_pos rfl, if_pos rfl,
    if_neg (by exact Bool.false_ne_true), trailers_at_end last]
  rfl

theorem Enclosed.readsWhole_method (enclosed : Enclosed "(" ")" inner front) (whole : ReadsWhole r inner base)
    {dot token : Token} {name : String} (isDot : dot.isPunctuation "." = true) (identifies : Identifies name token)
    {parts : List (List Token)} {trees : List Tree} {within : List Token} (separated : Separated parts within)
    (wholes : List.Forall₂ (ReadsWhole r) parts trees) (bracketed : Enclosed "(" ")" within back) :
    ∃ line, ReadsWhole r (front ++ dot :: token :: back) (.call (.named name) (some base) trees line {}) := by
  have named := identifies.isName
  obtain ⟨-, rfl, -⟩ := identifies
  obtain ⟨opening, closing, opens, closes, rfl⟩ := bracketed
  refine ⟨token.line, enclosed.readsWhole_trailers whole fun c budget split enough => ?_⟩
  simp only [List.length_cons, List.length_append, List.length_nil] at enough ⊢
  obtain ⟨more, rfl⟩ : ∃ more, budget = more + 1 := ⟨budget - 1, by omega⟩
  have split : c.tokens = dot :: token :: opening :: (within ++ closing :: [.eof 1]) := by simpa using split
  have next : c.next.tokens = token :: opening :: (within ++ closing :: [.eof 1]) := Cursor.tokens_next split (by simp)
  have third : c.next.next.tokens = opening :: (within ++ closing :: [.eof 1]) := Cursor.tokens_next next (by simp)
  have behind : c.next.next.next.tokens = within ++ closing :: [.eof 1] := Cursor.tokens_next third (by simp)
  have last : (c.next.next.next.skip (within.length + 1)).tokens = [.eof 1] := by
    rw [← Cursor.skip_next]
    exact Cursor.tokens_next (Cursor.tokens_skip behind (List.cons_ne_nil _ _)) (List.cons_ne_nil _ _)
  rw [trailers, Cursor.current_eq split, Cursor.current_eq next]
  dsimp only
  rw [Cursor.current_eq third, not_index_of_dot isDot, isDot, named, opens, if_neg Bool.false_ne_true, if_pos rfl, if_pos rfl, if_pos rfl,
    closeParen, separated.arguments wholes (by decide) closes "(" behind (by omega), ok_bind]
  dsimp only
  rw [trailers_at_end last, Cursor.next_skip, Cursor.next_skip, Cursor.next_skip]
  congr 3
  omega

end

theorem literal_repr {n : Int64} (nonneg : 0 ≤ n.toInt) {token : Token} (text : Nat.repr n.toInt.toNat = token.value) :
    literal token = .ok (.int n) := by
  have digits : Nat.toDigits 10 n.toInt.toNat = token.value.toList := by
    rw [← text, Nat.toList_repr]
  have isDigit := Number.isDigit_toDigits n.toInt.toNat
  have read := Number.readWord?_toString n
  rw [Number.toList_toString_int, if_neg nonneg.not_gt, ← Int.toNat_of_nonneg nonneg, Int.natAbs_natCast, digits] at read
  rw [digits] at isDigit
  have notWord : ∀ word ∈ reservedWords, token.value ≠ word := by
    intro word reserved same
    have lettered : ∀ word ∈ reservedWords, word.toList.all Char.isDigit = false := by decide
    have notDigits := lettered word reserved
    rw [← same, List.all_eq_true.mpr isDigit] at notDigits
    cases notDigits
  have noPoint : token.value.toList.contains '.' = false := by
    rw [List.contains_eq_mem, decide_eq_false_iff_not]
    intro member
    exact absurd (isDigit '.' member) (by decide)
  rw [literal, if_neg (notWord _ (by decide)), if_neg (notWord _ (by decide)), if_neg (notWord _ (by decide)), noPoint,
    if_neg Bool.false_ne_true, read]

theorem literal_spelling {value : Scalar} {token : Token} (spelling : value.spelling? = some token.value) :
    literal token = .ok value := by
  cases value with
  | null =>
      have text := Option.some.inj spelling
      rw [literal, ← text]
      rfl
  | bool b =>
      have text := Option.some.inj spelling
      rw [literal, ← text]
      cases b <;> rfl
  | int n =>
      rw [Scalar.spelling?] at spelling
      split at spelling
      · rename_i nonneg
        exact literal_repr nonneg (Option.some.inj spelling)
      · cases spelling
  | float x => cases spelling
  | string text => cases spelling

theorem exists_readsWhole_all {items : List (Tree × List Token)}
    (reads : ∀ item ∈ items, ∃ found, ReadsWhole r item.2 found ∧ found.unlined = item.1.unlined) :
    ∃ trees, List.Forall₂ (ReadsWhole r) (items.map Prod.snd) trees ∧
      Tree.unlinedAll trees = Tree.unlinedAll (items.map Prod.fst) := by
  induction items with
  | nil => exact ⟨[], .nil, rfl⟩
  | cons item items ih =>
      obtain ⟨found, whole, same⟩ := reads item List.mem_cons_self
      obtain ⟨trees, wholes, alike⟩ := ih fun other member => reads other (List.mem_cons_of_mem _ member)
      refine ⟨found :: trees, .cons whole wholes, ?_⟩
      rw [List.map_cons, Tree.unlinedAll, Tree.unlinedAll, same, alike]

theorem Writes.readsWhole (built : r.operators.Built) (writes : Writes r tree tokens) :
    ∃ found, ReadsWhole r tokens found ∧ found.unlined = tree.unlined := by
  induction writes with
  | group _ enclosed ih =>
      obtain ⟨found, whole, same⟩ := ih
      exact ⟨found, Operand.readsWhole ⟨_, found, enclosed.isOperand whole⟩, same⟩
  | literal isLiteral spelling =>
      exact ⟨_, Operand.readsWhole ⟨_, _, .literal isLiteral (literal_spelling spelling)⟩, rfl⟩
  | string isString text =>
      subst text
      exact ⟨_, Operand.readsWhole ⟨_, _, .string isString⟩, rfl⟩
  | name identifies =>
      obtain ⟨isIdentifier, rfl, wordLike⟩ := identifies
      exact ⟨_, Operand.readsWhole ⟨_, _, .identifier isIdentifier wordLike⟩, rfl⟩
  | list _ separated enclosed reads =>
      obtain ⟨trees, wholes, same⟩ := exists_readsWhole_all reads
      obtain ⟨line, whole⟩ := separated.readsWhole_list wholes enclosed
      exact ⟨_, whole, by rw [Tree.unlined, Tree.unlined, same]⟩
  | call identifies calls _ separated enclosed reads =>
      obtain ⟨trees, wholes, same⟩ := exists_readsWhole_all reads
      obtain ⟨line, whole⟩ := separated.readsWhole_call wholes enclosed identifies
      exact ⟨_, whole, by rw [Tree.unlined, Tree.unlined, same, calls.callee_eq]⟩
  | method _ bracketed isDot identifies _ separated enclosed receiving reads =>
      obtain ⟨base, baseWhole, sameBase⟩ := receiving
      obtain ⟨trees, wholes, same⟩ := exists_readsWhole_all reads
      obtain ⟨line, whole⟩ := bracketed.readsWhole_method baseWhole isDot identifies separated wholes enclosed
      exact ⟨_, whole, by simp only [Tree.unlined, Tree.unlinedOption, same, sameBase]⟩
  | index _ bracketed _ enclosed bases keys =>
      obtain ⟨base, baseWhole, sameBase⟩ := bases
      obtain ⟨key, keyWhole, sameKey⟩ := keys
      obtain ⟨line, whole⟩ := bracketed.readsWhole_index baseWhole enclosed keyWhole
      exact ⟨_, whole, by rw [Tree.unlined, Tree.unlined, sameBase, sameKey]⟩
  | field _ bracketed isDot identifies bases =>
      obtain ⟨base, baseWhole, sameBase⟩ := bases
      obtain ⟨line, inside, whole⟩ := bracketed.readsWhole_attribute baseWhole isDot identifies
      exact ⟨_, whole, by simp only [Tree.unlined, sameBase]⟩
  | before registered arity spells _ enclosed rights =>
      obtain ⟨right, rightWhole, same⟩ := rights
      obtain ⟨line, whole⟩ := spells.readsWhole_before built registered arity ⟨_, right, enclosed.isOperand rightWhole⟩
      exact ⟨_, whole, by simp only [Tree.unlined, Tree.unlinedOption, same]⟩
  | @behind id _ definition _ _ _ _ registered arity spells _ enclosed lefts =>
      obtain ⟨left, leftWhole, same⟩ := lefts
      obtain ⟨line, whole⟩ := spells.readsWhole_behind built registered (by rw [arity]; rfl)
        ⟨_, left, enclosed.isOperand leftWhole⟩ [] (fun _ absent => nomatch absent)
        (fun line => .operator id (some left) none none line {}) (operands_alone arity left)
      rw [List.append_nil] at whole
      exact ⟨_, whole, by simp only [Tree.unlined, Tree.unlinedOption, same]⟩
  | @between id _ definition _ _ _ _ _ _ back registered arity spells _ enclosed _ enclosed' lefts rights =>
      obtain ⟨left, leftWhole, sameLeft⟩ := lefts
      obtain ⟨right, rightWhole, sameRight⟩ := rights
      let operand : Operand r := ⟨back, right, enclosed'.isOperand rightWhole⟩
      obtain ⟨line, whole⟩ := spells.readsWhole_behind built registered (by rcases arity with is | is <;> rw [is] <;> rfl)
        ⟨_, left, enclosed.isOperand leftWhole⟩ back (by simpa using operand.head_append [])
        (fun line => .operator id (some left) none (some right) line {}) (operand.operands_between arity left)
      exact ⟨_, whole, by simp only [Tree.unlined, Tree.unlinedOption, sameLeft, sameRight]⟩
  | @choice id _ definition _ _ _ _ _ _ _ _ amid _ back registered arity spells _ enclosed _ enclosed' isColon _
      enclosed'' lefts middles rights =>
      obtain ⟨left, leftWhole, sameLeft⟩ := lefts
      obtain ⟨middle, middleWhole, sameMiddle⟩ := middles
      obtain ⟨right, rightWhole, sameRight⟩ := rights
      let second : Operand r := ⟨amid, middle, enclosed'.isOperand middleWhole⟩
      let third : Operand r := ⟨back, right, enclosed''.isOperand rightWhole⟩
      obtain ⟨line, whole⟩ := spells.readsWhole_behind built registered (by rw [arity]; rfl)
        ⟨_, left, enclosed.isOperand leftWhole⟩ _ (second.head_append _)
        (fun line => .operator id (some left) (some middle) (some right) line {})
        (second.operands_choice third isColon arity left)
      exact ⟨_, whole, by simp only [Tree.unlined, Tree.unlinedOption, sameLeft, sameMiddle, sameRight]⟩

/-- The tokens of an output give the node of the tag that prints, if there is one. -/
theorem output_written (s : Setting) {start finish : Token} (finishes : finish.kind = .expressionEnd)
    (whole : ReadsWhole s.registries tokens tree) {c : Cursor} {rest : List Token}
    (split : c.tokens = start :: (tokens ++ finish :: rest)) :
    output s c =
      match s.registries.tags.lookup? printKeyword with
      | some id => .ok (.tag id [tree] start.line {}, c.skip (tokens.length + 2))
      | none => .error ⟨.unknownTag printKeyword, start.line⟩ := by
  have behind : c.next.tokens = tokens ++ finish :: rest := Cursor.tokens_next split (by simp)
  have entered : (c.next.enter .expression "\x7b\x7b" start.line).tokens = tokens ++ finish :: rest := behind
  have ends : Ends finish := .of_kind (by rw [finishes]; decide) (by rw [finishes]; decide)
  have accepted : (TokenPattern.kind .expressionEnd).accepts (c.next.skip tokens.length).current = true := by
    rw [Cursor.current_skip behind]
    exact beq_iff_eq.mpr finishes
  rw [output, Cursor.current_eq split, Setting.printTag]
  cases s.registries.tags.lookup? printKeyword with
  | none => rfl
  | some id =>
      dsimp only [ok_bind]
      rw [whole.expression entered ends, Cursor.skip_enter]
      dsimp only [ok_bind]
      rw [Cursor.close_enter accepted, ok_bind, Cursor.next_skip, Cursor.skip_next,
        show 1 + tokens.length + 1 = tokens.length + 2 by omega]
      rfl

theorem tokens_output {start finish : Token} (finishes : finish.kind = .expressionEnd) :
    Cursor.tokens { stream := .ofTokens (start :: tokens ++ [finish]) } =
      start :: (tokens ++ finish :: [.eof finish.line]) := by
  have closed : TokenStream.closed (start :: tokens ++ [finish]) = start :: tokens ++ [finish] ++ [.eof finish.line] := by
    rw [TokenStream.closed, List.getLast?_concat]
    exact if_neg (by rw [finishes]; decide)
  rw [Cursor.tokens, TokenStream.ofTokens, closed]
  simp [TokenStream.remaining]

theorem template_output (s : Setting) {start finish : Token} (starts : start.kind = .expressionStart)
    (finishes : finish.kind = .expressionEnd) (whole : ReadsWhole s.registries tokens tree) :
    template s (start :: tokens ++ [finish]) =
      match s.registries.tags.lookup? printKeyword with
      | some id => .ok (.root [.tag id [tree] start.line {}] 1 {})
      | none => .error ⟨.unknownTag printKeyword, start.line⟩ := by
  have split : Cursor.tokens { stream := .ofTokens (start :: tokens ++ [finish]) } = _ := tokens_output finishes
  rw [template]
  generalize ({ stream := .ofTokens (start :: tokens ++ [finish]) } : Cursor) = c at split
  have entered : (c.enter .text "template" 1).tokens = start :: (tokens ++ finish :: [.eof finish.line]) := split
  have last : (c.skip (tokens.length + 2)).tokens = [.eof finish.line] := by
    have parted : c.tokens = (start :: (tokens ++ [finish])) ++ [.eof finish.line] := by simpa using split
    have skipped := Cursor.tokens_skip parted (List.cons_ne_nil _ _)
    rwa [List.length_cons, List.length_append, List.length_singleton] at skipped
  have atEnd : (c.skip (tokens.length + 2)).current.kind = .eof := by
    rw [Cursor.current_eq last]
    rfl
  have ended : ∀ budget, body s (budget + 1) ((c.skip (tokens.length + 2)).enter .text "template" 1) =
      .ok ([], (c.skip (tokens.length + 2)).enter .text "template" 1) := by
    intro budget
    rw [body, Cursor.current_enter, atEnd]
    rfl
  dsimp only
  rw [Cursor.budget, Nat.mul_add, body, Cursor.current_enter, Cursor.current_eq split, starts]
  dsimp only
  rw [output_written s finishes whole entered, Cursor.skip_enter]
  cases s.registries.tags.lookup? printKeyword with
  | none => rfl
  | some id =>
      dsimp only [ok_bind]
      rw [ended]
      dsimp only [ok_bind, pure_eq_ok]
      rw [Cursor.leave_enter]
      rfl

/-- Every expression over registries that were built can be written down. Each written form, alone in an
output, is read as the expression up to its lines, unless there is no tag that prints. -/
theorem written_expression_read_back {extensions : List Extension} (built : Registries.build extensions = .ok r)
    (fallback : Option String) (expressible : Expressible r tree) :
    (∃ tokens, Writes r tree tokens) ∧
      ∀ (tokens : List Token) (start finish : Token), Writes r tree tokens → start.kind = .expressionStart →
        finish.kind = .expressionEnd →
        ∃ found, found.unlined = tree.unlined ∧
          template ⟨r, fallback⟩ (start :: tokens ++ [finish]) =
            match r.tags.lookup? printKeyword with
            | some id => .ok (.root [.tag id [found] start.line {}] 1 {})
            | none => .error ⟨.unknownTag printKeyword, start.line⟩ := by
  refine ⟨expressible.exists_writes, ?_⟩
  intro tokens start finish writes starts finishes
  obtain ⟨found, whole, same⟩ := writes.readsWhole (Registries.built_operators built)
  exact ⟨found, same, template_output ⟨r, fallback⟩ starts finishes whole⟩

def outputStart : Token := ⟨.expressionStart, "\x7b\x7b", 1⟩

def outputEnd : Token := ⟨.expressionEnd, "\x7d\x7d", 1⟩

def sampleExtension : Extension where
  name := "sample"
  operators := [⟨"conditional", ["?"], 5, .right, .ternary, .conditional⟩, Core.unary "negate" ["-"] 70 (.unary "neg"),
    Core.identical, Core.isSet]
  tags := [Core.printTag]
  functions := [Core.builtin "length"]

def sampleRegistries : Registries :=
  match Registries.build [sampleExtension] with
  | .ok r => r
  | .error _ => {}

theorem sampleRegistries_built : Registries.build [sampleExtension] = .ok sampleRegistries := by
  have succeeds : (Registries.build [sampleExtension]).isOk = true := by decide +kernel
  rw [sampleRegistries]
  cases built : Registries.build [sampleExtension] with
  | error e =>
      rw [built] at succeeds
      cases succeeds
  | ok r => rfl

def sampleTest : Tree := .operator 3 (some (.variable "x" 1 {})) none none 1 {}

def sampleNegation : Tree :=
  .operator 1 none none
    (some (.call (.resolved 0) none [.list [.variable "y" 1 {}, .data (.string "s") 1 {}] 1 {}] 1 {})) 1 {}

def sampleIndex : Tree :=
  .index (.index (.variable "x" 1 {}) (.identifier "f" 1 {}) 1 {}) (.data (.int 0) 1 {}) 1 {}

/-- The expression `(x is set) ? (-length([y, "s"])) : (x.f[0])`. -/
def sampleTree : Tree := .operator 0 (some sampleTest) (some sampleNegation) (some sampleIndex) 1 {}

theorem expressible_some {operand : Tree} (expressible : Expressible r operand) :
    ∀ found ∈ some operand, Expressible r found := by
  rintro found ⟨⟩
  exact expressible

theorem sampleTree_expressible : Expressible sampleRegistries sampleTree := by
  have choice : sampleRegistries.operators.get? 0 = some ⟨"conditional", ["?"], 5, .right, .ternary, .conditional⟩ := by
    decide +kernel
  have sign : sampleRegistries.operators.get? 1 = some (Core.unary "negate" ["-"] 70 (.unary "neg")) := by
    decide +kernel
  have isSet : sampleRegistries.operators.get? 3 = some Core.isSet := by decide +kernel
  have length : sampleRegistries.functions.lookup? "length" = some 0 := by decide +kernel
  have x : Expressible sampleRegistries (.variable "x" 1 {}) := .name (by decide)
  have y : Expressible sampleRegistries (.variable "y" 1 {}) := .name (by decide)
  have pair : Expressible sampleRegistries (.list [.variable "y" 1 {}, .data (.string "s") 1 {}] 1 {}) :=
    .list (by simpa using ⟨y, .string⟩)
  have call : Expressible sampleRegistries
      (.call (.resolved 0) none [.list [.variable "y" 1 {}, .data (.string "s") 1 {}] 1 {}] 1 {}) :=
    .call (by decide : isWordLike "length" = true) (.resolved length) (by simpa using pair)
  have test : Expressible sampleRegistries sampleTest :=
    .operator isSet (by decide +kernel) rfl rfl rfl (expressible_some x) nofun nofun
  have negation : Expressible sampleRegistries sampleNegation :=
    .operator sign (by decide +kernel) rfl rfl rfl nofun nofun (expressible_some call)
  have index : Expressible sampleRegistries sampleIndex := .index (.field (by decide) x) (.literal (by decide))
  exact .operator choice (by decide +kernel) rfl rfl rfl (expressible_some test) (expressible_some negation)
    (expressible_some index)

theorem sampleTree_read_back :
    Registries.build [sampleExtension] = .ok sampleRegistries ∧ Expressible sampleRegistries sampleTree ∧
      ∃ tokens found, Writes sampleRegistries sampleTree tokens ∧ found.unlined = sampleTree.unlined ∧
        template ⟨sampleRegistries, none⟩ (outputStart :: tokens ++ [outputEnd]) =
          .ok (.root [.tag 0 [found] 1 {}] 1 {}) := by
  obtain ⟨⟨tokens, writes⟩, reads⟩ :=
    written_expression_read_back sampleRegistries_built none sampleTree_expressible
  obtain ⟨found, same, reading⟩ := reads tokens outputStart outputEnd writes rfl rfl
  have printing : sampleRegistries.tags.lookup? printKeyword = some 0 := by decide +kernel
  rw [printing] at reading
  exact ⟨sampleRegistries_built, sampleTree_expressible, tokens, found, writes, same, reading⟩

def callsExtension : Extension where
  name := "calls"
  tags := [Core.printTag]
  functions := [Core.builtin "1x"]

def callTokens : List Token := [outputStart, ⟨.identifier, "1x", 1⟩, sign "(", sign ")", outputEnd]

/-- Without a tag that prints no output is read, and a function whose name is no word cannot be called. -/
theorem written_expression_unread :
    (Registries.build [] = .ok {} ∧ Expressible {} (.variable "x" 1 {}) ∧
      Writes {} (.variable "x" 1 {}) [⟨.identifier, "x", 1⟩] ∧
      template ⟨{}, none⟩ [outputStart, ⟨.identifier, "x", 1⟩, outputEnd] = .error ⟨.unknownTag "print", 1⟩) ∧
    ∃ r, Registries.build [callsExtension] = .ok r ∧ Calls r "1x" (.resolved 0) ∧
      ¬∃ tree, template ⟨r, none⟩ callTokens = .ok tree := by
  have x : ReadsWhole {} [⟨.identifier, "x", 1⟩] (.variable "x" 1 {}) :=
    Operand.readsWhole ⟨_, _, .identifier rfl (by decide)⟩
  refine ⟨⟨rfl, .name (by decide), .name ⟨rfl, rfl, by decide⟩, template_output ⟨{}, none⟩ rfl rfl x⟩, _, rfl,
    .resolved (by decide +kernel), ?_⟩
  rintro ⟨tree, reading⟩
  have fails : (template ⟨⟨{}, ⟨[Core.printTag]⟩, ⟨[Core.builtin "1x"]⟩⟩, none⟩ callTokens).isOk = false := by
    decide +kernel
  exact Bool.false_ne_true (fails.symm.trans (congrArg Except.isOk reading))

end Templating.Parse
