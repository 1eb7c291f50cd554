import Templating.Proofs.ExpressionTokens

/-! # Framed tokens

The tokens of a source stand in frames. Outside of them there are texts and openers only; behind an opener come the
tokens that a tag or an expression consists of, and then the closer of that opener. This holds for all delimiters, also
for those with which tokenizing breaks off, since a stream puts an end behind its tokens.
-/

namespace Templating

open Source (innerKinds)

/-- The closer of what an opener opens. -/
def TokenKind.closer? : TokenKind → Option TokenKind
  | .tagStart => some .tagEnd
  | .expressionStart => some .expressionEnd
  | _ => none

/-- The kinds of tokens that stand in frames up to an end. If a frame is open, its closer is given. -/
inductive Framed : Option TokenKind → List TokenKind → Prop
  | ending : Framed none [.eof]
  | text {rest : List TokenKind} : Framed none rest → Framed none (.text :: rest)
  | opener {opener closer : TokenKind} {rest : List TokenKind} :
      opener.closer? = some closer → Framed (some closer) rest → Framed none (opener :: rest)
  | inner {kind closer : TokenKind} {rest : List TokenKind} :
      kind ∈ innerKinds → Framed (some closer) rest → Framed (some closer) (kind :: rest)
  | closer {opener closer : TokenKind} {rest : List TokenKind} :
      opener.closer? = some closer → Framed none rest → Framed (some closer) (closer :: rest)

theorem TokenKind.closer_outside {opener closer : TokenKind} (closes : opener.closer? = some closer) :
    closer ∉ innerKinds := by
  cases opener <;> cases closes <;> simp [innerKinds]

namespace Framed

variable {kind closer : TokenKind} {kinds rest : List TokenKind} {open_ : Option TokenKind}

theorem of_inner (framed : Framed (some closer) (kinds ++ rest)) (inside : ∀ kind ∈ kinds, kind ∈ innerKinds) :
    Framed (some closer) rest := by
  induction kinds with
  | nil => exact framed
  | cons kind kinds ih =>
      obtain ⟨isInner, others⟩ := List.forall_mem_cons.mp inside
      cases framed with
      | inner _ framed => exact ih framed others
      | closer closes _ => exact absurd isInner (TokenKind.closer_outside closes)

theorem of_closer (framed : Framed (some closer) (kind :: rest)) (outside : kind ∉ innerKinds) : Framed none rest := by
  cases framed with
  | inner isInner _ => exact absurd isInner outside
  | closer _ framed => exact framed

theorem of_text (framed : Framed none (.text :: rest)) : Framed none rest := by
  cases framed with
  | text framed => exact framed
  | opener opens _ => cases opens

theorem of_opener (framed : Framed none (kind :: rest)) (opens : kind.closer? = some closer) :
    Framed (some closer) rest := by
  cases framed with
  | ending | text => cases opens
  | opener same framed => exact Option.some.inj (same.symm.trans opens) ▸ framed

theorem outside (framed : Framed none (kind :: rest)) :
    kind ∈ [TokenKind.eof, .text, .expressionStart, .tagStart] := by
  cases framed with
  | ending | text => simp
  | opener opens _ => cases kind <;> cases opens <;> simp

theorem exists_ending (framed : Framed open_ kinds) : ∃ front, kinds = front ++ [.eof] ∧ .eof ∉ front := by
  have onward {kind : TokenKind} {rest : List TokenKind} (goesOn : kind ≠ .eof)
      (later : ∃ front, rest = front ++ [.eof] ∧ .eof ∉ front) :
      ∃ front, kind :: rest = front ++ [.eof] ∧ .eof ∉ front := by
    obtain ⟨front, rfl, inside⟩ := later
    exact ⟨kind :: front, rfl, by simp [inside, goesOn.symm]⟩
  induction framed with
  | ending => exact ⟨[], rfl, List.not_mem_nil⟩
  | text _ ih => exact onward (by decide) ih
  | opener opens _ ih => exact onward (by rintro rfl; cases opens) ih
  | inner isInner _ ih => exact onward (by rintro rfl; simp [innerKinds] at isInner) ih
  | @closer opener _ _ closes _ ih => exact onward (by rintro rfl; cases opener <;> cases closes) ih

end Framed

namespace Cursor

variable {c d : Cursor} {closer : TokenKind} {open_ : Option TokenKind} {used : List Token}

/-- The tokens to come stand in frames. -/
def Framed (open_ : Option TokenKind) (c : Cursor) : Prop :=
  Templating.Framed open_ (c.tokens.map Token.kind)

namespace Framed

theorem closed (framed : c.Framed open_) : c.Closed := by
  obtain ⟨front, kinds, -⟩ := framed.exists_ending
  obtain ⟨tokens, rest, split, -, isEnd⟩ := List.map_eq_append_iff.mp kinds
  obtain ⟨last, rfl, ofEnd⟩ := List.map_eq_singleton_iff.mp isEnd
  intro token final
  rw [split, List.getLast?_concat] at final
  cases final
  exact ofEnd

theorem within (framed : c.Framed (some closer)) (along : c.Within d) : d.Framed (some closer) := by
  obtain ⟨used, passes, inner⟩ := along
  rw [Framed, passes.tokens, List.map_append] at framed
  exact framed.of_inner (by simpa using inner)

/-- The token that is passed is none of those inside, so it closes the frame. -/
theorem closing (framed : c.Framed (some closer)) {token : Token} (passes : c.Passes [token] d)
    (outside : token.kind ∉ innerKinds) : d.Framed none := by
  rw [Framed, passes.tokens] at framed
  exact Templating.Framed.of_closer framed outside

theorem opening (framed : c.Framed none) {token : Token} (passes : c.Passes [token] d)
    (opens : token.kind.closer? = some closer) : d.Framed (some closer) := by
  rw [Framed, passes.tokens] at framed
  exact Templating.Framed.of_opener framed opens

theorem texts (framed : c.Framed none) (passes : c.Passes used d) (areTexts : ∀ token ∈ used, token.kind = .text) :
    d.Framed none := by
  rw [Framed, passes.tokens, List.map_append] at framed
  clear passes
  induction used with
  | nil => exact framed
  | cons token used ih =>
      obtain ⟨isText, others⟩ := List.forall_mem_cons.mp areTexts
      rw [List.map_cons, isText] at framed
      exact ih framed.of_text others

theorem outside (framed : c.Framed none) :
    c.current.kind ∈ [TokenKind.eof, .text, .expressionStart, .tagStart] := by
  rw [Framed, tokens_eq] at framed
  exact Templating.Framed.outside framed

theorem enter (framed : c.Framed open_) (kind : StateKind) (label : String) (line : Nat) :
    (c.enter kind label line).Framed open_ :=
  framed

end Framed

end Cursor

/-- Tokens that can stand in front of framed ones. -/
def Frames (tokens : List Token) : Prop :=
  ∀ later, Framed none later → Framed none (tokens.map Token.kind ++ later)

namespace Frames

theorem nil : Frames [] :=
  fun _ framed => framed

theorem append {first second : List Token} (before : Frames first) (behind : Frames second) : Frames (first ++ second) := by
  intro later framed
  rw [List.map_append, List.append_assoc]
  exact before _ (behind _ framed)

/-- An end can be put behind them; a stream does so if none is there. -/
theorem closed {front tokens : List Token} (frames : Frames front)
    (ends : tokens = front ∨ ∃ line, tokens = front ++ [.eof line]) :
    Framed none ((TokenStream.closed tokens).map Token.kind) := by
  have framed := frames [.eof] .ending
  rcases ends with rfl | ⟨line, rfl⟩
  · rw [TokenStream.closed]
    cases final : tokens.getLast? with
    | none => exact .ending
    | some last =>
        obtain ⟨others, rfl⟩ := List.getLast?_eq_some_iff.mp final
        obtain ⟨front, kinds, inside⟩ := framed.exists_ending
        have goesOn : last.kind ≠ .eof := by
          intro isEnd
          obtain rfl := List.append_cancel_right kinds
          exact inside (by simp [isEnd])
        dsimp only
        rw [if_neg goesOn, List.map_append]
        exact framed
  · rw [TokenStream.closed, List.getLast?_concat]
    dsimp only [Token.eof]
    rw [if_pos rfl, List.map_append]
    exact framed

end Frames

namespace Source

variable {v : Vocabulary}

theorem frames_textTokens (line : Nat) (trimsStart trimsEnd : Bool) (text : List Char) :
    Frames (textTokens wordBehind line trimsStart trimsEnd text) := by
  rw [textTokens]
  generalize (if trimsEnd then _ else _) = kept
  split
  · exact .nil
  · exact fun later framed => .text framed

theorem frames_readSection {opener : Opener} {unterminated : LexError} {line : Nat} {inside : List Char}
    {done : RegionEnd} (read : readSection wordBehind v opener unterminated line inside = .ok done) : Frames done.tokens := by
  have region {opens closes : TokenKind} {isTag : Bool} {ended : RegionEnd} (pair : opens.closer? = some closes)
      (regionRead : readRegion wordBehind v opener.closing closes unterminated isTag line inside = .ok ended) :
      Frames (⟨opens, "", line⟩ :: ended.tokens) := by
    obtain ⟨inner, faces, boundary, -⟩ := boundary_of_readRegion .start (Bool.and_true _).symm regionRead
    have kinds : ended.tokens.map Token.kind = inner.map Prod.fst ++ [closes] := by
      simpa [Token.face, Function.comp_def] using congrArg (List.map Prod.fst) faces
    have isInner := boundary.kinds
    intro later framed
    rw [List.map_cons, kinds, List.cons_append]
    refine .opener pair ?_
    clear faces boundary kinds
    induction inner with
    | nil => exact .closer pair framed
    | cons face inner ih =>
        obtain ⟨here, others⟩ := List.forall_mem_cons.mp isInner
        exact .inner here (ih others)
  unfold readSection at read
  split at read
  · dsimp only [skipComment] at read
    split at read
    · cases read
    · cases read
      exact .nil
  · obtain ⟨ended, regionRead, ⟨⟩⟩ := bind_eq_ok.mp read
    exact region rfl regionRead
  · obtain ⟨ended, regionRead, ⟨⟩⟩ := bind_eq_ok.mp read
    exact region rfl regionRead

theorem frames_scan {finders : List Finder} {position line : Nat} {trims : Bool} {unread : List Char}
    {tokens : List Token} (scanned : scan wordBehind v finders position line trims unread = .ok tokens) :
    ∃ front, Frames front ∧ (tokens = front ∨ ∃ last, tokens = front ++ [.eof last]) := by
  induction size : unread.length using Nat.strong_induction_on
    generalizing unread finders position line trims tokens with
  | _ _ ih =>
      subst size
      have front {opener : Opener} {unterminated : LexError} {openLine : Nat} {inside : List Char} {done : RegionEnd}
          (read : readSection wordBehind v opener unterminated openLine inside = .ok done) (trimsEnd : Bool)
          (before : List Char) :=
        (frames_textTokens line trims trimsEnd before).append (frames_readSection read)
      cases scanStep_of_scan scanned with
      | done => exact ⟨[], .nil, .inr ⟨line, rfl⟩⟩
      | text => exact ⟨_, frames_textTokens line trims false unread, .inr ⟨_, rfl⟩⟩
      | region _ _ _ read shorter next =>
          obtain ⟨behind, frames, ends⟩ := ih _ shorter next rfl
          rcases ends with rfl | ⟨last, rfl⟩
          · exact ⟨_, (front read _ _).append frames, .inl rfl⟩
          · exact ⟨_, (front read _ _).append frames, .inr ⟨last, (List.append_assoc ..).symm⟩⟩
      | stuck _ _ _ read => exact ⟨_, front read _ _, .inl rfl⟩

theorem framed_of_tokenize {source : String} {tokens : List Token} (tokenized : tokenize v source = .ok tokens) :
    Cursor.Framed none { stream := .ofTokens tokens } := by
  obtain ⟨front, frames, ends⟩ := frames_scan tokenized
  rw [Cursor.Framed, tokens_ofTokens_eq]
  exact frames.closed ends

end Source

end Templating
