import Templating.Proofs.TokenFraming

/-! # Faults of the reader

Some failures would be faults of the reader and not of what it reads: a construct is closed that is not the innermost
one, a place that was tested before is not what it was, or the budget is spent. No expression ends with one of them, given
a budget for the tokens to come. The induction is on that budget, for all readers of expressions at once.
-/

namespace Templating

/-- What is expected only where it is known to stand: the start and the keyword of a branch, and the pieces of a body. -/
def ParseCause.assured : List String :=
  [TokenKind.tagStart.describe, TokenKind.keyword.describe, "text, tag or expression"]

/-- Whether a failure is a fault of the reader. -/
def ParseCause.isInternal : ParseCause → Bool
  | .stateMismatch _ _ => true
  | .exhausted => true
  | .unexpected expected _ => decide (expected ∈ assured)
  | _ => false

theorem ParseCause.quoted_not_assured (text : String) : "`" ++ text ++ "`" ∉ assured := by
  have unquoted : ∀ word ∈ assured, word.toList.head? ≠ some '`' := by decide
  intro member
  apply unquoted _ member
  simp

namespace Cursor

variable {c d : Cursor} {used : List Token}

theorem Passes.shorter (passes : c.Passes used d) (some_token : used ≠ []) : d.tokens.length < c.tokens.length := by
  have length := passes.length
  have positive := List.length_pos_iff.mpr some_token
  omega

theorem Within.length_le (within : c.Within d) : d.tokens.length ≤ c.tokens.length := by
  obtain ⟨used, passes, -⟩ := within
  have length := passes.length
  omega

end Cursor

namespace Parse

/-- A reading does not end with a fault of the reader. -/
def Blameless {α : Type} (reading : Except ParseError α) : Prop :=
  ∀ e, reading = .error e → e.cause.isInternal = false

namespace Blameless

variable {α β : Type}

theorem ok (a : α) : Blameless (.ok a) :=
  nofun

theorem error {e : ParseError} (plain : e.cause.isInternal = false) : Blameless (.error e : Except ParseError α) := by
  rintro _ ⟨⟩
  exact plain

theorem unexpected {expected : String} {found : Token} (plain : expected ∉ ParseCause.assured) :
    Blameless (.error (.unexpected expected found) : Except ParseError α) :=
  error (decide_eq_false plain)

theorem bind {reading : Except ParseError α} {rest : α → Except ParseError β} (first : Blameless reading)
    (onward : ∀ a, reading = .ok a → Blameless (rest a)) : Blameless (reading >>= rest) := by
  intro e failed
  rcases bind_eq_error.mp failed with early | ⟨a, done, late⟩
  · exact first e early
  · exact onward a done e late

end Blameless

variable {r : Registries} {budget : Nat} {c c' : Cursor}

theorem blameless_expect {kind : TokenKind} {value : Option String}
    (plain : TokenStream.expectation kind value ∉ ParseCause.assured) : Blameless (c.expect kind value) := by
  refine .bind ?_ fun found _ => .ok _
  rw [TokenStream.expect]
  split
  · exact .ok _
  · exact .unexpected plain

theorem blameless_literal (token : Token) : Blameless (literal token) := by
  simp only [literal]
  repeat' split
  all_goals first | exact .ok _ | exact .error rfl

/-- Where tokens inside a construct were passed, the construct is the innermost one: it is closed, or something else than
its closer is blamed. -/
theorem blameless_close {kind : StateKind} {label : String} {line : Nat} {closer : TokenPattern}
    (within : (c.enter kind label line).Within c') (plain : closer.describe ∉ ParseCause.assured) :
    Blameless (c'.close kind label closer) := by
  obtain ⟨used, entered, -⟩ := within
  obtain ⟨inner, rfl, -⟩ := entered.of_enter
  rw [Cursor.close, Cursor.leave_enter]
  split
  · exact .ok _
  split
  · exact .error rfl
  · exact .unexpected plain

theorem blameless_sign (text : String) : Blameless (c.expect .punctuation (some text)) :=
  blameless_expect (ParseCause.quoted_not_assured text)

theorem blameless_bracket {kind : StateKind} {label : String} {line : Nat}
    (within : (c.enter kind label line).Within c') (text : String) :
    Blameless (c'.close kind label (.exact .punctuation text)) :=
  blameless_close within (ParseCause.quoted_not_assured text)

theorem binary_advances (closed : c.Closed) {least : UInt8} {tree : Tree} (reading : binary r budget least c = .ok (tree, c')) :
    c.Within c' ∧ c'.tokens.length < c.tokens.length := by
  refine ⟨(staysInside r budget).binary closed reading, ?_⟩
  obtain ⟨used, some_token, passes, -⟩ := (readings_local r budget).1 least c tree c' closed reading
  exact passes.shorter (List.ne_nil_of_length_pos some_token)

theorem operator_advances (closed : c.Closed) {trie : AliasTrie} {found : OperatorRegistry.Found}
    (matched : r.operators.resolve? (trie.longestMatch c.stream.remaining) = some found) :
    (c.skip found.length).Closed ∧ (c.skip found.length).tokens.length < c.tokens.length := by
  obtain ⟨words, some_word, passes, -⟩ := passes_found closed matched
  exact ⟨closed.behind passes, passes.shorter (List.ne_nil_of_length_pos some_word)⟩

/-- The readers of expressions are blameless with a budget of eight steps for every token to come and some more. -/
structure Faultless (r : Registries) (budget : Nat) : Prop where
  binary : ∀ {least c}, c.Closed → 8 * c.tokens.length + 3 ≤ budget → Blameless (binary r budget least c)
  climb : ∀ {least left earlier c}, c.Closed → 8 * c.tokens.length + 1 ≤ budget →
    Blameless (climb r budget least left earlier c)
  operands : ∀ {found left line c}, c.Closed → 8 * c.tokens.length + 4 ≤ budget →
    Blameless (operands r budget found left line c)
  unary : ∀ {c}, c.Closed → 8 * c.tokens.length + 2 ≤ budget → Blameless (unary r budget c)
  primary : ∀ {c}, c.Closed → 8 * c.tokens.length + 1 ≤ budget → Blameless (primary r budget c)
  trailers : ∀ {base c}, c.Closed → 8 * c.tokens.length + 1 ≤ budget → Blameless (trailers r budget base c)
  arguments : ∀ {label text c}, c.Closed → 8 * c.tokens.length + 5 ≤ budget →
    Blameless (arguments r budget label (.exact .punctuation text) c)
  items : ∀ {closer c}, c.Closed → 8 * c.tokens.length + 4 ≤ budget → Blameless (items r budget closer c)

namespace Faultless

theorem binary_succ (faultless : Faultless r budget) (closed : c.Closed) {least : UInt8}
    (enough : 8 * c.tokens.length + 3 ≤ budget + 1) : Blameless (Parse.binary r (budget + 1) least c) := by
  rw [Parse.binary]
  apply Blameless.bind (faultless.unary closed (by omega))
  rintro ⟨left, between⟩ operand
  obtain ⟨used, some_token, passes, -⟩ := (readings_local r budget).2.2.2.1 c left between closed operand
  have shorter := passes.shorter (List.ne_nil_of_length_pos some_token)
  exact faultless.climb (closed.behind passes) (by omega)

theorem climb_succ (faultless : Faultless r budget) (closed : c.Closed) {least : UInt8} {left : Tree}
    {earlier : Option (UInt8 × String)} (enough : 8 * c.tokens.length + 1 ≤ budget + 1) :
    Blameless (Parse.climb r (budget + 1) least left earlier c) := by
  rw [Parse.climb]
  cases matched : r.operators.binaryAt? c.stream.remaining with
  | none =>
      dsimp only
      split
      · exact .error rfl
      · exact .ok _
  | some found =>
      obtain ⟨inside, shorter⟩ := operator_advances closed matched
      dsimp only
      split
      · exact .ok _
      split
      · exact .error rfl
      apply Blameless.bind (faultless.operands inside (by omega))
      rintro ⟨node, behind⟩ taking
      have within := (staysInside r budget).operands inside taking
      have length := within.length_le
      dsimp only
      exact faultless.climb (within.behind inside) (by omega)

theorem operands_succ (faultless : Faultless r budget) (closed : c.Closed) {found : OperatorRegistry.Found} {left : Tree}
    {line : Nat} (enough : 8 * c.tokens.length + 4 ≤ budget + 1) :
    Blameless (Parse.operands r (budget + 1) found left line c) := by
  rw [Parse.operands]
  split
  · exact .bind (faultless.binary closed (by omega)) fun _ _ => .ok _
  · exact .bind (faultless.binary closed (by omega)) fun _ _ => .ok _
  · apply Blameless.bind (faultless.binary closed (by omega))
    rintro ⟨middle, between⟩ taking
    apply Blameless.bind (blameless_sign ":")
    rintro ⟨colon, behind⟩ expected
    have front := (staysInside r budget).binary closed taking
    have within := front.trans (within_expect (front.behind closed) (by simp [Source.innerKinds]) expected)
    have length := within.length_le
    exact .bind (faultless.binary (within.behind closed) (by omega)) fun _ _ => .ok _
  · exact .ok _
  · exact .ok _

theorem unary_succ (faultless : Faultless r budget) (closed : c.Closed) (enough : 8 * c.tokens.length + 2 ≤ budget + 1) :
    Blameless (Parse.unary r (budget + 1) c) := by
  rw [Parse.unary]
  cases matched : r.operators.unaryAt? c.stream.remaining with
  | some found =>
      obtain ⟨inside, shorter⟩ := operator_advances closed matched
      exact .bind (faultless.binary inside (by omega)) fun _ _ => .ok _
  | none =>
      apply Blameless.bind (faultless.primary closed (by omega))
      rintro ⟨base, between⟩ taking
      obtain ⟨used, some_token, passes, -⟩ := (readings_local r budget).2.2.2.2.1 c base between closed taking
      have shorter := passes.shorter (List.ne_nil_of_length_pos some_token)
      exact faultless.trailers (closed.behind passes) (by omega)

theorem bracketed (faultless : Faultless r budget) {α : Type} (closed : c.Closed) {kind : StateKind} {label text : String}
    (isText : c.current.isPunctuation label = true) {rest : Tree × Cursor → Cursor → Except ParseError α}
    (enough : 8 * c.tokens.length ≤ budget)
    (onward : ∀ found behind, behind.Closed → behind.tokens.length < c.tokens.length → Blameless (rest found behind)) :
    Blameless (Parse.binary r budget 0 (c.next.enter kind label c.current.line) >>= fun found =>
      found.2.close kind label (.exact .punctuation text) >>= rest found) := by
  have bracket := closed.punctuation isText
  have shorter := bracket.shorter (List.cons_ne_nil _ _)
  have inside := closed.behind bracket
  apply Blameless.bind (faultless.binary (inside.enter _ _ _) (by change 8 * c.next.tokens.length + 3 ≤ budget; omega))
  rintro ⟨inner, between⟩ taking
  have within := (staysInside r budget).binary (inside.enter _ _ _) taking
  apply Blameless.bind (blameless_bracket within text)
  intro behind closing
  have along := Cursor.Within.closed inside within closing
  have length := along.length_le
  exact onward _ behind (along.behind inside) (by omega)

theorem primary_succ (faultless : Faultless r budget) (closed : c.Closed) (enough : 8 * c.tokens.length + 1 ≤ budget + 1) :
    Blameless (Parse.primary r (budget + 1) c) := by
  rw [Parse.primary]
  dsimp only
  split
  · exact .bind (blameless_literal _) fun _ _ => .ok _
  split
  · exact .ok _
  split
  · rename_i name
    split
    · rename_i opens
      have front := within_isName closed name
      have inside := front.behind closed
      have bracket := inside.punctuation opens
      have shorter := bracket.shorter (List.cons_ne_nil _ _)
      have length := front.length_le
      exact .bind (faultless.arguments (inside.behind bracket) (by omega)) fun _ _ => .ok _
    · exact .ok _
  split
  · rename_i opens
    exact faultless.bracketed closed opens (by omega) fun _ _ _ _ => .ok _
  split
  · rename_i opens
    have bracket := closed.punctuation opens
    have shorter := bracket.shorter (List.cons_ne_nil _ _)
    exact .bind (faultless.arguments (closed.behind bracket) (by omega)) fun _ _ => .ok _
  · exact .error rfl

theorem trailers_succ (faultless : Faultless r budget) (closed : c.Closed) {base : Tree}
    (enough : 8 * c.tokens.length + 1 ≤ budget + 1) : Blameless (Parse.trailers r (budget + 1) base c) := by
  rw [Parse.trailers]
  dsimp only
  split
  · rename_i opens
    refine faultless.bracketed closed opens (by omega) fun found behind inside shorter => ?_
    exact faultless.trailers inside (by omega)
  split
  · rename_i dot
    have point := closed.punctuation dot
    have inside := closed.behind point
    have shorter := point.shorter (List.cons_ne_nil _ _)
    split
    · rename_i name
      have front := within_isName inside name
      have length := front.length_le
      split
      · rename_i opens
        have bracket := (front.behind inside).punctuation opens
        have fewer := bracket.shorter (List.cons_ne_nil _ _)
        have within := (front.behind inside).behind bracket
        apply Blameless.bind (faultless.arguments within (by omega))
        rintro ⟨args, behind⟩ listing
        have along := (staysInside r budget).arguments within listing
        have last := along.length_le
        dsimp only
        exact faultless.trailers (along.behind within) (by omega)
      · exact faultless.trailers (front.behind inside) (by omega)
    split
    · rename_i isLiteral
      apply Blameless.bind (blameless_literal _)
      intro value _
      have front := Cursor.Within.next inside isLiteral.1 (by simp [Source.innerKinds])
      have length := front.length_le
      exact faultless.trailers (front.behind inside) (by omega)
    · exact .unexpected (by decide)
  · exact .ok _

theorem arguments_succ (faultless : Faultless r budget) (closed : c.Closed) {label text : String}
    (enough : 8 * c.tokens.length + 5 ≤ budget + 1) :
    Blameless (Parse.arguments r (budget + 1) label (.exact .punctuation text) c) := by
  rw [Parse.arguments]
  apply Blameless.bind
    (faultless.items (closed.enter _ _ _) (by change 8 * c.tokens.length + 4 ≤ budget; omega))
  rintro ⟨items, between⟩ listing
  have within := (staysInside r budget).items (closed.enter _ _ _) listing
  exact .bind (blameless_bracket within text) fun _ _ => .ok _

theorem items_succ (faultless : Faultless r budget) (closed : c.Closed) {closer : TokenPattern}
    (enough : 8 * c.tokens.length + 4 ≤ budget + 1) : Blameless (Parse.items r (budget + 1) closer c) := by
  rw [Parse.items]
  split
  · exact .ok _
  apply Blameless.bind (faultless.binary closed (by omega))
  rintro ⟨item, between⟩ taking
  obtain ⟨within, shorter⟩ := binary_advances closed taking
  dsimp only
  split
  · rename_i comma
    have inside := within.behind closed
    have along := inside.punctuation comma
    have fewer := along.shorter (List.cons_ne_nil _ _)
    exact .bind (faultless.items (inside.behind along) (by omega)) fun _ _ => .ok _
  · exact .ok _

end Faultless

theorem faultless (r : Registries) (budget : Nat) : Faultless r budget := by
  induction budget with
  | zero => constructor <;> intros <;> omega
  | succ budget ih =>
      exact ⟨fun closed enough => ih.binary_succ closed enough, fun closed enough => ih.climb_succ closed enough,
        fun closed enough => ih.operands_succ closed enough, fun closed enough => ih.unary_succ closed enough,
        fun closed enough => ih.primary_succ closed enough, fun closed enough => ih.trailers_succ closed enough,
        fun closed enough => ih.arguments_succ closed enough, fun closed enough => ih.items_succ closed enough⟩

theorem blameless_expression (closed : c.Closed) : Blameless (expression r c) := by
  apply (faultless r c.budget).binary closed
  have length := c.later_length
  rw [Cursor.budget]
  omega

end Parse

end Templating
