import Templating.Proofs.Locality
import Templating.Parse.Template

/-! # Steps of readers

What a reader does between its calls puts no token back. A token that is no end is passed, since an end stands behind it,
and a step that fails does not fail for want of a budget.
-/

namespace Templating

namespace Cursor

variable {c d e : Cursor}

/-- A place is behind another: some tokens have been passed, perhaps none. -/
def Behind (c d : Cursor) : Prop :=
  d.tokens <:+ c.tokens

/-- A place is past another: some token has been passed. -/
def Past (c d : Cursor) : Prop :=
  c.Behind d ∧ d.tokens.length < c.tokens.length

theorem Behind.refl (c : Cursor) : c.Behind c :=
  List.suffix_rfl

theorem Behind.trans (first : c.Behind d) (second : d.Behind e) : c.Behind e :=
  List.IsSuffix.trans second first

theorem Behind.past (first : c.Behind d) (second : d.Past e) : c.Past e :=
  ⟨first.trans second.1, second.2.trans_le first.length_le⟩

theorem Past.behind (first : c.Past d) (second : d.Behind e) : c.Past e :=
  ⟨first.1.trans second, second.length_le.trans_lt first.2⟩

theorem Past.trans (first : c.Past d) (second : d.Past e) : c.Past e :=
  first.behind second.1

theorem Behind.closed (behind : c.Behind d) (closed : c.Closed) : d.Closed := by
  obtain ⟨used, split⟩ := behind
  intro last final
  refine closed last ?_
  rw [← split, List.getLast?_append, Option.mem_def.mp final]
  rfl

theorem behind_next (c : Cursor) : c.Behind c.next := by
  obtain ⟨⟨passed, current, later⟩, opened⟩ := c
  cases later with
  | nil => exact List.suffix_rfl
  | cons token later => exact List.suffix_cons _ _

theorem Passes.past {used : List Token} (passes : c.Passes used d) (some_token : 1 ≤ used.length) : c.Past d :=
  ⟨⟨used, passes.tokens.symm⟩, by have := passes.length; omega⟩

theorem Closed.past_next (closed : c.Closed) (inside : c.current.kind ≠ .eof) : c.Past c.next :=
  (closed.next inside).past (Nat.le_refl 1)

end Cursor

namespace Parse

@[simp]
theorem unexpected_cause (expected : String) (found : Token) :
    (ParseError.unexpected expected found).cause = .unexpected expected found :=
  rfl

/-- A result is as wanted, or it is a failure, but not for want of a budget. -/
def Comes {α : Type} (result : Except ParseError α) (wanted : α → Prop) : Prop :=
  match result with
  | .ok a => wanted a
  | .error e => e.cause ≠ .exhausted

namespace Comes

variable {α β : Type} {result : Except ParseError α} {wanted other : α → Prop}

theorem mono (comes : Comes result wanted) (implies : ∀ a, wanted a → other a) : Comes result other := by
  cases result with
  | ok a => exact implies a comes
  | error e => exact comes

theorem bind {next : α → Except ParseError β} {goal : β → Prop} (first : Comes result wanted)
    (second : ∀ a, wanted a → Comes (next a) goal) : Comes (result >>= next) goal := by
  cases result with
  | ok a => exact second a first
  | error e => exact first

theorem failure {e : ParseError} (other : e.cause ≠ .exhausted) : Comes (.error e) wanted :=
  other

end Comes

section

variable {c : Cursor} {kind : TokenKind}

theorem comes_expect (closed : c.Closed) (inside : kind ≠ .eof) (value : Option String) :
    Comes (c.expect kind value) fun found => c.Past found.2 := by
  by_cases fits : TokenStream.fits c.current kind value = true
  · rw [Cursor.expect_of_fits fits]
    rw [TokenStream.fits, Bool.and_eq_true, beq_iff_eq] at fits
    exact closed.past_next (fits.1 ▸ inside)
  · have refused : c.stream.expect kind value = .error _ := if_neg fits
    rw [Cursor.expect, refused]
    exact .failure (by simp)

theorem comes_word (closed : c.Closed) (text : String) :
    Comes (c.expectOneOf [.word text]) fun found => c.Past found.2 := by
  by_cases accepted : (TokenPattern.word text).accepts c.current = true
  · rw [Cursor.expectOneOf_of_accepts accepted]
    refine closed.past_next fun ending => ?_
    rw [TokenPattern.accepts, Token.isWord, ending] at accepted
    cases accepted
  · rw [Cursor.expectOneOf, TokenStream.expectOneOf, Cursor.test_single, if_neg accepted]
    exact .failure (by simp)

theorem comes_leave (c : Cursor) (state : StateKind) (label : String) (line : Nat) :
    Comes (c.leave state label line) c.Behind := by
  rw [Cursor.leave]
  split
  · exact Cursor.Behind.refl c
  · exact .failure (by simp)

theorem comes_close (closed : c.Closed) {closer : TokenPattern}
    (inside : ∀ token, closer.accepts token = true → token.kind ≠ .eof) (state : StateKind) (label : String) :
    Comes (c.close state label closer) c.Past := by
  rw [Cursor.close, Cursor.leave]
  split
  · rename_i accepted
    have past := closed.past_next (inside _ accepted)
    split
    · exact past
    · exact .failure (by simp)
  · split <;> exact .failure (by simp)

theorem comes_bracket (closed : c.Closed) (text : String) (state : StateKind) (label : String) :
    Comes (c.close state label (.exact .punctuation text)) c.Past := by
  refine comes_close closed (fun token accepted ending => ?_) state label
  rw [TokenPattern.accepts, ending] at accepted
  cases accepted

theorem comes_literal (token : Token) : Comes (literal token) fun _ => True := by
  simp only [literal]
  repeat' split
  all_goals first | trivial | exact .failure (by simp)

theorem comes_name (closed : c.Closed) (what : String) : Comes (name what c) fun found => c.Past found.2 := by
  simp only [name]
  split
  · rename_i isName
    refine closed.past_next fun ending => ?_
    simp [ending] at isName
  · exact .failure (by simp)

theorem comes_tagEnd (closed : c.Closed) : Comes (tagEnd c) fun found => c.Past found.2 :=
  comes_expect closed (by decide) none

theorem comes_branchKeyword (closed : c.Closed) : Comes (branchKeyword c) fun found => c.Past found.2 := by
  refine (comes_expect closed (by decide) none).bind fun start past => ?_
  exact (comes_expect (past.1.closed closed) (by decide) none).mono fun found further => past.trans further

theorem comes_printTag (s : Setting) (line : Nat) : Comes (s.printTag line) fun _ => True := by
  rw [Setting.printTag]
  split
  · trivial
  · exact .failure (by simp)

theorem comes_textNode (s : Setting) (text : Token) : Comes (textNode s text) fun _ => True :=
  (comes_printTag s text.line).bind fun _ _ => trivial

theorem comes_resolveTag (s : Setting) (c : Cursor) : Comes (resolveTag s c) fun found => c.Behind found.2 := by
  simp only [resolveTag]
  repeat' split
  all_goals first | exact c.behind_next | exact .refl c | exact .failure (by simp)

theorem comes_loopVariables (closed : c.Closed) : Comes (loopVariables c) fun found => c.Past found.2 := by
  refine (comes_name closed _).bind ?_
  rintro ⟨first, d⟩ past
  dsimp only
  split
  · have onward := past.behind d.behind_next
    refine (comes_name (onward.1.closed closed) _).bind fun second further => ?_
    exact onward.trans further
  · exact past

theorem comes_skipBlankText (closed : c.Closed) (count : Nat) : Comes (skipBlankText c count) c.Behind := by
  induction count generalizing c with
  | zero => exact Cursor.Behind.refl c
  | succ count ih =>
      rw [skipBlankText]
      split
      · split
        · have onward := c.behind_next
          exact (ih (onward.closed closed)).mono fun d => onward.trans
        · exact .failure (by simp)
      · exact Cursor.Behind.refl c

theorem skipBlankText_eq (closed : c.Closed) {first second : Nat} (one : c.tokens.length ≤ first)
    (two : c.tokens.length ≤ second) : skipBlankText c first = skipBlankText c second := by
  have inhabited := c.later_length
  induction first generalizing c second with
  | zero => omega
  | succ first ih =>
      obtain ⟨second, rfl⟩ : ∃ fewer, second = fewer + 1 := ⟨second - 1, by omega⟩
      rw [skipBlankText, skipBlankText]
      split
      · rename_i isText
        have past := closed.past_next (isText ▸ by decide)
        have shorter := past.2
        have same : skipBlankText c.next first = skipBlankText c.next second :=
          ih (past.1.closed closed) (by omega) (by omega) c.next.later_length
        rw [same]
      · rfl

theorem comes_firstBranch (s : Setting) (line : Nat) (closed : c.Closed) : Comes (firstBranch s line c) c.Behind := by
  refine (comes_skipBlankText closed _).bind fun d behind => ?_
  dsimp only
  repeat' split
  all_goals first | exact behind | exact .failure (by simp)

end

end Parse

end Templating
