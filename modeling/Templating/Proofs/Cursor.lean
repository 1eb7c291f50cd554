import Templating.Parse.Cursor
import Templating.Proofs.Outcome
import Templating.Proofs.StreamOperations

/-! # Places in a reading

A reading only moves forward: behind it stands the cursor that has passed some tokens, with the same
constructs open. Passing tokens is `skip`, so the lemmas say what `skip` does to the tokens to come, and
that closing undoes opening.
-/

namespace Templating

/-- Two items of one list: the first stands in front of the second, or they are the same, or it stands
behind. -/
theorem append_cons_cases {α : Type} {front front' back back' : List α} {a b : α}
    (same : front ++ a :: back = front' ++ b :: back') :
    (∃ gap, front' = front ++ a :: gap ∧ back = gap ++ b :: back') ∨
      (front' = front ∧ a = b ∧ back = back') ∨
      ∃ gap, front = front' ++ b :: gap ∧ back' = gap ++ a :: back := by
  rcases List.append_eq_append_iff.mp same with ⟨extra, longer, rest⟩ | ⟨extra, longer, rest⟩
  · cases extra with
    | nil =>
        obtain ⟨here, behind⟩ := List.cons.inj rest
        exact .inr (.inl ⟨by rw [longer, List.append_nil], here, behind⟩)
    | cons item extra =>
        obtain ⟨rfl, behind⟩ := List.cons.inj rest
        exact .inl ⟨extra, longer, behind⟩
  · cases extra with
    | nil =>
        obtain ⟨here, behind⟩ := List.cons.inj rest
        exact .inr (.inl ⟨by rw [longer, List.append_nil], here.symm, behind.symm⟩)
    | cons item extra =>
        obtain ⟨rfl, behind⟩ := List.cons.inj rest
        exact .inr (.inr ⟨extra, longer, behind⟩)

instance : LawfulBEq TokenKind where
  eq_of_beq := by
    intro a b same
    cases a <;> cases b <;> first | rfl | cases same
  rfl := by
    intro a
    cases a <;> rfl

theorem Token.isPunctuation_iff {token : Token} {text : String} :
    token.isPunctuation text = true ↔ token.kind = .punctuation ∧ token.value = text := by
  rw [isPunctuation, Bool.and_eq_true, beq_iff_eq, beq_iff_eq]

theorem Token.ne_eof_of_isPunctuation {token : Token} {text : String} (isText : token.isPunctuation text = true) :
    token.kind ≠ .eof := by
  rw [(isPunctuation_iff.mp isText).1]
  decide

namespace Cursor

variable {c d : Cursor} {token : Token} {used tail : List Token}

/-- The tokens to come. -/
def tokens (c : Cursor) : List Token :=
  c.stream.remaining

/-- The last token is an end, so every other token has one behind it. -/
def Closed (c : Cursor) : Prop :=
  ∀ last ∈ c.tokens.getLast?, last.kind = .eof

theorem tokens_eq (c : Cursor) : c.tokens = c.current :: c.stream.later :=
  rfl

theorem current_eq (tokens : c.tokens = token :: tail) : c.current = token :=
  (List.cons.inj tokens).1

theorem later_eq (tokens : c.tokens = token :: tail) : c.stream.later = tail :=
  (List.cons.inj tokens).2

theorem later_length (c : Cursor) : c.stream.later.length + 1 = c.tokens.length :=
  rfl

theorem ahead_one {second : Token} (tokens : c.tokens = token :: second :: tail) : c.stream.ahead 1 = second := by
  rw [TokenStream.ahead, later_eq tokens]
  rfl

theorem ahead_two {second third : Token} (tokens : c.tokens = token :: second :: third :: tail) :
    c.stream.ahead 2 = third := by
  rw [TokenStream.ahead, later_eq tokens]
  rfl

@[simp] theorem current_enter (c : Cursor) (kind : StateKind) (label : String) (line : Nat) :
    (c.enter kind label line).current = c.current :=
  rfl

@[simp] theorem skip_zero (c : Cursor) : c.skip 0 = c :=
  rfl

theorem skip_enter (c : Cursor) (kind : StateKind) (label : String) (line count : Nat) :
    (c.enter kind label line).skip count = (c.skip count).enter kind label line :=
  rfl

@[simp] theorem opened_skip (c : Cursor) (count : Nat) : (c.skip count).opened = c.opened :=
  rfl

theorem skip_skip (c : Cursor) (first second : Nat) : (c.skip first).skip second = c.skip (first + second) := by
  induction first generalizing c with
  | zero => rw [skip_zero, Nat.zero_add]
  | succ first ih =>
      rw [Nat.succ_add]
      exact ih c.next

theorem skip_next (c : Cursor) (count : Nat) : (c.skip count).next = c.skip (count + 1) :=
  skip_skip c count 1

theorem next_skip (c : Cursor) (count : Nat) : c.next.skip count = c.skip (1 + count) :=
  skip_skip c 1 count

theorem tokens_skip (tokens : c.tokens = used ++ tail) (behind : tail ≠ []) :
    (c.skip used.length).tokens = tail := by
  induction used generalizing c with
  | nil => exact tokens
  | cons token used ih =>
      have later : c.stream.later = used ++ tail := later_eq tokens
      obtain ⟨following, rest, split⟩ := List.exists_cons_of_ne_nil (List.append_ne_nil_of_right_ne_nil used behind)
      refine ih (c := c.next) ?_
      have passed : c.stream.next = ⟨c.stream.current :: c.stream.passed, following, rest⟩ := by
        rw [TokenStream.next, later, split]
      rw [split]
      exact congrArg TokenStream.remaining passed

theorem tokens_next (tokens : c.tokens = [token] ++ tail) (behind : tail ≠ []) : c.next.tokens = tail :=
  tokens_skip tokens behind

theorem current_skip (tokens : c.tokens = used ++ token :: tail) : (c.skip used.length).current = token :=
  current_eq (tokens_skip tokens (List.cons_ne_nil _ _))

theorem tokens_ne_nil (c : Cursor) : c.tokens ≠ [] :=
  List.cons_ne_nil _ _

/-- One cursor stands some tokens behind another, with the same constructs open. -/
structure Passes (c : Cursor) (used : List Token) (d : Cursor) : Prop where
  tokens : c.tokens = used ++ d.tokens
  skip : d = c.skip used.length

namespace Passes

variable {e : Cursor} {first second : List Token}

theorem refl (c : Cursor) : c.Passes [] c :=
  ⟨rfl, rfl⟩

theorem of_tokens (tokens : c.tokens = used ++ tail) (behind : tail ≠ []) :
    c.Passes used (c.skip used.length) :=
  ⟨by rw [tokens_skip tokens behind, tokens], rfl⟩

theorem next (behind : c.stream.later ≠ []) : c.Passes [c.current] c.next := by
  have tokens : c.tokens = [c.current] ++ c.stream.later := c.tokens_eq
  exact of_tokens tokens behind

theorem trans (before : c.Passes first d) (after : d.Passes second e) : c.Passes (first ++ second) e := by
  refine ⟨?_, ?_⟩
  · rw [before.tokens, after.tokens, List.append_assoc]
  · rw [after.skip, before.skip, skip_skip, List.length_append]

/-- A way over tokens in two parts leads over a place between them. -/
theorem split (whole : c.Passes (first ++ second) e) :
    c.Passes first (c.skip first.length) ∧ (c.skip first.length).Passes second e := by
  have tokens : c.tokens = first ++ (second ++ e.tokens) := by rw [whole.tokens, List.append_assoc]
  have between := tokens_skip tokens (List.append_ne_nil_of_right_ne_nil _ e.tokens_ne_nil)
  refine ⟨⟨tokens.trans (by rw [between]), rfl⟩, between, ?_⟩
  rw [whole.skip, skip_skip, List.length_append]

theorem between (whole : c.Passes (first ++ second) e) : ∃ m, c.Passes first m ∧ m.Passes second e :=
  ⟨_, whole.split⟩

theorem uncons (whole : c.Passes (token :: used) d) : c.current = token ∧ c.next.Passes used d := by
  have parts : c.Passes ([token] ++ used) d := whole
  exact ⟨current_eq whole.tokens, parts.split.2⟩

theorem eq_of_nil (whole : c.Passes [] d) : d = c :=
  whole.skip

theorem length (whole : c.Passes used d) : c.tokens.length = used.length + d.tokens.length := by
  rw [whole.tokens, List.length_append]

theorem opened (whole : c.Passes used d) : d.opened = c.opened := by
  rw [whole.skip, opened_skip]

theorem enter (whole : c.Passes used d) (kind : StateKind) (label : String) (line : Nat) :
    (c.enter kind label line).Passes used (d.enter kind label line) :=
  ⟨whole.tokens, by rw [whole.skip, skip_enter]⟩

theorem of_enter {kind : StateKind} {label : String} {line : Nat}
    (whole : (c.enter kind label line).Passes used d) :
    ∃ inner, d = inner.enter kind label line ∧ c.Passes used inner := by
  refine ⟨c.skip used.length, whole.skip.trans (skip_enter ..), ?_, rfl⟩
  have tokens := whole.tokens
  rw [whole.skip] at tokens
  exact tokens

end Passes

namespace Closed

theorem enter (closed : c.Closed) (kind : StateKind) (label : String) (line : Nat) :
    (c.enter kind label line).Closed :=
  closed

theorem later_ne_nil (closed : c.Closed) (inside : c.current.kind ≠ .eof) : c.stream.later ≠ [] := by
  intro alone
  refine inside (closed c.current ?_)
  rw [tokens_eq, alone]
  rfl

theorem next (closed : c.Closed) (inside : c.current.kind ≠ .eof) : c.Passes [c.current] c.next :=
  .next (closed.later_ne_nil inside)

theorem punctuation {text : String} (closed : c.Closed) (isText : c.current.isPunctuation text = true) :
    c.Passes [c.current] c.next :=
  closed.next (Token.ne_eof_of_isPunctuation isText)

theorem behind (closed : c.Closed) (passes : c.Passes used d) : d.Closed := by
  intro last final
  refine closed last ?_
  rw [passes.tokens, List.getLast?_append, Option.mem_def.mp final]
  rfl

end Closed

theorem expect_of_fits {kind : TokenKind} {value : Option String}
    (fits : TokenStream.fits c.current kind value = true) : c.expect kind value = .ok (c.current, c.next) := by
  have found : c.stream.expect kind value = .ok (c.stream.current, c.stream.next) := if_pos fits
  rw [expect, found]
  rfl

theorem fits_of_expect {kind : TokenKind} {value : Option String}
    (expected : c.expect kind value = .ok (token, d)) :
    TokenStream.fits c.current kind value = true ∧ token = c.current ∧ d = c.next := by
  by_cases fits : TokenStream.fits c.current kind value = true
  · rw [expect_of_fits fits] at expected
    cases expected
    exact ⟨fits, rfl, rfl⟩
  · have refused : c.stream.expect kind value = .error _ := if_neg fits
    rw [expect, refused] at expected
    cases expected

theorem test_single (c : Cursor) (pattern : TokenPattern) :
    c.stream.test [pattern] = pattern.accepts c.current := by
  rw [TokenStream.test, List.any_cons, List.any_nil, Bool.or_false]
  rfl

theorem expectOneOf_of_accepts {pattern : TokenPattern} (accepted : pattern.accepts c.current = true) :
    c.expectOneOf [pattern] = .ok (c.current, c.next) := by
  rw [expectOneOf, TokenStream.expectOneOf, test_single, if_pos accepted]
  rfl

theorem accepts_of_expectOneOf {pattern : TokenPattern} (expected : c.expectOneOf [pattern] = .ok (token, d)) :
    pattern.accepts c.current = true ∧ token = c.current ∧ d = c.next := by
  by_cases accepted : pattern.accepts c.current = true
  · rw [expectOneOf_of_accepts accepted] at expected
    cases expected
    exact ⟨accepted, rfl, rfl⟩
  · rw [expectOneOf, TokenStream.expectOneOf, test_single, if_neg accepted] at expected
    cases expected

variable {kind : StateKind} {label : String} {line : Nat} {closer : TokenPattern}

theorem leave_enter (c : Cursor) (kind : StateKind) (label : String) (line at_ : Nat) :
    (c.enter kind label line).leave kind label at_ = .ok c := by
  simp only [leave, enter, OpenStates.close, and_self, if_true]

theorem close_enter (accepted : closer.accepts c.current = true) :
    (c.enter kind label line).close kind label closer = .ok c.next := by
  rw [close, current_enter, if_pos accepted, leave_enter]
  rfl

theorem of_close_enter (closing : (c.enter kind label line).close kind label closer = .ok d) :
    closer.accepts c.current = true ∧ d = c.next := by
  by_cases accepted : closer.accepts c.current = true
  · rw [close_enter accepted] at closing
    exact ⟨accepted, (Except.ok.inj closing).symm⟩
  · rw [close, current_enter, if_neg accepted] at closing
    split at closing <;> cases closing

theorem accepts_of_close (closing : c.close kind label closer = .ok d) : closer.accepts c.current = true := by
  by_cases accepted : closer.accepts c.current = true
  · exact accepted
  · rw [close, if_neg accepted] at closing
    split at closing <;> cases closing

/-- A construct that is closed behind some tokens leads over them and the closing one. -/
theorem Passes.closed (entered : (c.enter kind label line).Passes used d) (closed : c.Closed)
    (inside : d.current.kind ≠ .eof) {e : Cursor} (closing : d.close kind label closer = .ok e) :
    c.Passes (used ++ [d.current]) e ∧ d.tokens = d.current :: e.tokens := by
  obtain ⟨last, rfl, passes⟩ := entered.of_enter
  obtain ⟨-, rfl⟩ := of_close_enter closing
  have onward := (closed.behind passes).next inside
  exact ⟨passes.trans onward, onward.tokens⟩

theorem Passes.close (whole : c.Passes (used ++ [token]) d) (accepted : closer.accepts token = true)
    (kind : StateKind) (label : String) (line : Nat) :
    ∃ e, (c.enter kind label line).Passes used e ∧ e.tokens = token :: d.tokens ∧
      e.close kind label closer = .ok d := by
  obtain ⟨front, back⟩ := whole.split
  obtain ⟨here, nothing⟩ := back.uncons
  refine ⟨_, front.enter kind label line, back.tokens, ?_⟩
  rw [nothing.eq_of_nil]
  exact close_enter (here ▸ accepted)

end Cursor

theorem tokens_ofTokens_eq (tokens : List Token) :
    Cursor.tokens { stream := .ofTokens tokens } = TokenStream.closed tokens :=
  TokenStream.remaining_ofTokens tokens

theorem closed_stream (tokens : List Token) : Cursor.Closed { stream := .ofTokens tokens } := by
  intro last final
  obtain ⟨ending, isEnd, same⟩ := EndsWith.closed tokens
  rw [tokens_ofTokens_eq, same] at final
  cases final
  exact isEnd

theorem prefix_stream (tokens : List Token) : tokens <+: Cursor.tokens { stream := .ofTokens tokens } := by
  rw [tokens_ofTokens_eq, TokenStream.closed_eq]
  exact List.prefix_append _ _

end Templating
