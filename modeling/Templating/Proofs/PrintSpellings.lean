import Templating.Proofs.OutlineReading

/-! # Spellings of a print

An expression is printed by an output, by the tag that prints, or by a tag without a keyword where that tag stands in for
it. Templates that differ only in such spellings are read side by side: the readings are in front of the same tokens, or
in front of two spellings of the same print. No reader of another part gets past the first token of a spelling, so the two
readings part ways only where a body reads a whole one.
-/

namespace Templating

/-- Whether an output or a tag starts with a token. -/
def Token.Opens (token : Token) : Prop :=
  token.kind = .expressionStart ∨ token.kind = .tagStart

namespace Parse

open Source (innerKinds)

/-- Tokens that print the expression with the tokens `inner`. The lines are those of the first and the last of them. -/
inductive Spelling (fallback : Option String) (inner : List Token) (line lastLine : Nat) : List Token → Prop
  | output {start finish : Token} : start.kind = .expressionStart → start.line = line →
      finish.kind = .expressionEnd → finish.line = lastLine →
      Spelling fallback inner line lastLine (start :: inner ++ [finish])
  | print {start word finish : Token} : start.kind = .tagStart → start.line = line → word.kind = .keyword →
      word.value = printKeyword → finish.kind = .tagEnd → finish.line = lastLine →
      Spelling fallback inner line lastLine (start :: word :: inner ++ [finish])
  | standIn {start finish : Token} : fallback = some printKeyword → (∀ first ∈ inner.head?, first.kind ≠ .keyword) →
      start.kind = .tagStart → start.line = line → finish.kind = .tagEnd → finish.line = lastLine →
      Spelling fallback inner line lastLine (start :: inner ++ [finish])

/-- Neither an output nor a tag is closed among the tokens. -/
def Unclosed (inner : List Token) : Prop :=
  ∀ token ∈ inner, token.kind ≠ .expressionEnd ∧ token.kind ≠ .tagEnd

/-- The tokens of two templates that differ only in how they spell what they print. -/
inductive Respelled (fallback : Option String) : List Token → List Token → Prop
  | nil : Respelled fallback [] []
  | token (token : Token) {tokens others : List Token} :
      Respelled fallback tokens others → Respelled fallback (token :: tokens) (token :: others)
  | printing {inner one other tokens others : List Token} {line lastLine : Nat} : Unclosed inner →
      Spelling fallback inner line lastLine one → Spelling fallback inner line lastLine other →
      Respelled fallback tokens others → Respelled fallback (one ++ tokens) (other ++ others)

variable {s : Setting} {r : Registries} {fallback : Option String} {token start word finish : Token}
  {inner one other tokens others used : List Token} {c d c' : Cursor} {line lastLine id budget enough bound : Nat}
  {α β : Type}

theorem not_opens_of_inner (isInner : token.kind ∈ innerKinds) : ¬token.Opens := by
  rintro (opens | opens) <;> simp [opens, innerKinds] at isInner

theorem not_opens_of_kind {kind : TokenKind} (ofKind : token.kind = kind) (notOutput : kind ≠ .expressionStart)
    (notTag : kind ≠ .tagStart) : ¬token.Opens := by
  rintro (opens | opens)
  · exact notOutput (ofKind.symm.trans opens)
  · exact notTag (ofKind.symm.trans opens)

theorem Spelling.opens (spelling : Spelling fallback inner line lastLine one) :
    ∃ first rest, one = first :: rest ∧ first.Opens := by
  cases spelling with
  | output isStart => exact ⟨_, _, rfl, .inl isStart⟩
  | print isStart | standIn _ _ isStart => exact ⟨_, _, rfl, .inr isStart⟩

/-- A spelling ends on its last line, and not with the end of the template. -/
theorem Spelling.last (spelling : Spelling fallback inner line lastLine one) :
    ∃ last, one.getLast? = some last ∧ last.line = lastLine ∧ last.kind ≠ .eof := by
  cases spelling with
  | output _ _ isEnd onLine | print _ _ _ _ isEnd onLine | standIn _ _ _ _ isEnd onLine =>
      exact ⟨_, List.getLast?_concat, onLine, by simp [isEnd]⟩

namespace Respelled

theorem refl (tokens : List Token) : Respelled fallback tokens tokens := by
  induction tokens with
  | nil => exact .nil
  | cons token tokens ih => exact .token token ih

theorem append {more rest : List Token} (front : Respelled fallback tokens others)
    (back : Respelled fallback more rest) : Respelled fallback (tokens ++ more) (others ++ rest) := by
  induction front with
  | nil => exact back
  | token token _ ih => exact .token token ih
  | printing unclosed one other _ ih =>
      rw [List.append_assoc, List.append_assoc]
      exact .printing unclosed one other ih

theorem symm (respelled : Respelled fallback tokens others) : Respelled fallback others tokens := by
  induction respelled with
  | nil => exact .nil
  | token token _ ih => exact .token token ih
  | printing unclosed one other _ ih => exact .printing unclosed other one ih

theorem uncons (respelled : Respelled fallback (token :: tokens) others) (plain : ¬token.Opens) :
    ∃ rest, others = token :: rest ∧ Respelled fallback tokens rest := by
  generalize whole : token :: tokens = all at respelled
  cases respelled with
  | nil => cases whole
  | token _ rest =>
      cases whole
      exact ⟨_, rfl, rest⟩
  | printing _ one _ _ =>
      obtain ⟨first, more, rfl, opens⟩ := one.opens
      cases whole
      exact absurd opens plain

theorem split (respelled : Respelled fallback (used ++ tokens) others) (plain : ∀ token ∈ used, ¬token.Opens) :
    ∃ rest, others = used ++ rest ∧ Respelled fallback tokens rest := by
  induction used generalizing others with
  | nil => exact ⟨others, rfl, respelled⟩
  | cons token used ih =>
      obtain ⟨isPlain, plain⟩ := List.forall_mem_cons.mp plain
      obtain ⟨behind, rfl, onward⟩ := uncons respelled isPlain
      obtain ⟨rest, rfl, final⟩ := ih onward plain
      exact ⟨rest, rfl, final⟩

/-- So is the start of a tag with another keyword than that of the tag that prints. -/
theorem keyword (respelled : Respelled fallback (start :: word :: tokens) others) (isStart : start.kind = .tagStart)
    (isKeyword : word.kind = .keyword) (other : word.value ≠ printKeyword) :
    ∃ rest, others = start :: word :: rest ∧ Respelled fallback tokens rest := by
  generalize whole : start :: word :: tokens = all at respelled
  cases respelled with
  | nil => cases whole
  | token _ behind =>
      cases whole
      obtain ⟨rest, rfl, onward⟩ := behind.uncons (not_opens_of_kind isKeyword (by decide) (by decide))
      exact ⟨rest, rfl, onward⟩
  | @printing inner _ _ _ _ _ _ _ one _ _ =>
      cases one with
      | output isOutput =>
          obtain ⟨rfl, -⟩ := List.cons.inj whole
          simp [isStart] at isOutput
      | print _ _ _ isPrint =>
          obtain ⟨-, behind⟩ := List.cons.inj whole
          obtain ⟨rfl, -⟩ := List.cons.inj behind
          exact absurd isPrint other
      | standIn _ noKeyword _ _ isEnd =>
          obtain ⟨-, behind⟩ := List.cons.inj whole
          cases inner with
          | nil =>
              obtain ⟨rfl, -⟩ := List.cons.inj behind
              simp [isKeyword] at isEnd
          | cons first inner =>
              obtain ⟨rfl, -⟩ := List.cons.inj behind
              exact absurd isKeyword (noKeyword word rfl)

/-- Both templates go on with the same token, or both with the start of a spelling. -/
theorem head (respelled : Respelled fallback (token :: tokens) others) :
    ∃ first rest, others = first :: rest ∧ (first = token ∨ token.Opens ∧ first.Opens) := by
  generalize whole : token :: tokens = all at respelled
  cases respelled with
  | nil => cases whole
  | token _ rest =>
      cases whole
      exact ⟨_, _, rfl, .inl rfl⟩
  | printing _ one other _ =>
      obtain ⟨first, more, rfl, opens⟩ := one.opens
      obtain ⟨second, rest, rfl, opensToo⟩ := other.opens
      cases whole
      exact ⟨_, _, rfl, .inr ⟨opens, opensToo⟩⟩

theorem ne_nil (respelled : Respelled fallback tokens others) (some_token : tokens ≠ []) : others ≠ [] := by
  obtain ⟨token, tokens, rfl⟩ := List.exists_cons_of_ne_nil some_token
  obtain ⟨first, rest, rfl, -⟩ := respelled.head
  exact List.cons_ne_nil _ _

/-- The last tokens stand on the same line, and the end of the template is last in both or in none. -/
theorem last (respelled : Respelled fallback tokens others) :
    tokens = [] ∧ others = [] ∨ ∃ last other, tokens.getLast? = some last ∧ others.getLast? = some other ∧
      last.line = other.line ∧ (last.kind = .eof ↔ other.kind = .eof) := by
  induction respelled with
  | nil => exact .inl ⟨rfl, rfl⟩
  | token token _ ih =>
      right
      rcases ih with ⟨rfl, rfl⟩ | ⟨last, other, isLast, isOther, both⟩
      · exact ⟨token, token, rfl, rfl, rfl, .rfl⟩
      · exact ⟨last, other, by simp [List.getLast?_cons, isLast], by simp [List.getLast?_cons, isOther], both⟩
  | printing _ one other _ ih =>
      right
      rcases ih with ⟨rfl, rfl⟩ | ⟨last, other, isLast, isOther, both⟩
      · obtain ⟨last, isLast, onLine, inside⟩ := one.last
        obtain ⟨second, isSecond, onSame, insideToo⟩ := other.last
        exact ⟨last, second, by simpa using isLast, by simpa using isSecond, onLine.trans onSame.symm,
          by simp [inside, insideToo]⟩
      · exact ⟨last, other, by simp [List.getLast?_append, isLast], by simp [List.getLast?_append, isOther], both⟩

/-- With an end behind them, templates still differ only in their spellings. -/
theorem closed (respelled : Respelled fallback tokens others) :
    Respelled fallback (TokenStream.closed tokens) (TokenStream.closed others) := by
  unfold TokenStream.closed
  rcases respelled.last with ⟨rfl, rfl⟩ | ⟨last, other, isLast, isOther, onLine, isEnd⟩
  · exact .refl _
  · rw [isLast, isOther]
    dsimp only
    split
    · rename_i atEnd
      rwa [if_pos (isEnd.mp atEnd)]
    · rename_i inside
      rw [if_neg (fun atEnd => inside (isEnd.mpr atEnd)), onLine]
      exact respelled.append (.refl _)

end Respelled

theorem second_of_start (closed : c.Closed) (isStart : c.current.kind = .tagStart) :
    ∃ rest, c.tokens = c.current :: c.stream.ahead 1 :: rest := by
  obtain ⟨word, rest, later⟩ := List.exists_cons_of_ne_nil (closed.later_ne_nil (by simp [isStart]))
  have tokens : c.tokens = c.current :: word :: rest := by rw [c.tokens_eq, later]
  exact ⟨rest, Cursor.ahead_one tokens ▸ tokens⟩

/-- The same place in two templates that differ only in their spellings from there on. -/
structure Twin (fallback : Option String) (c d : Cursor) : Prop where
  closed : c.Closed
  closed_other : d.Closed
  respelled : Respelled fallback c.tokens d.tokens
  opened : d.opened = c.opened

namespace Twin

theorem passes (twin : Twin fallback c d) (along : c.Passes used c') (plain : ∀ token ∈ used, ¬token.Opens) :
    ∃ d', d.Passes used d' ∧ Twin fallback c' d' := by
  have respelled := twin.respelled
  rw [along.tokens] at respelled
  obtain ⟨rest, others, respelled⟩ := respelled.split plain
  have some_token : rest ≠ [] := respelled.ne_nil c'.tokens_ne_nil
  have onward := Cursor.Passes.of_tokens others some_token
  refine ⟨_, onward, twin.closed.behind along, twin.closed_other.behind onward, ?_, ?_⟩
  · rwa [Cursor.tokens_skip others some_token]
  · rw [Cursor.opened_skip, twin.opened, along.opened]

theorem enter (twin : Twin fallback c d) (kind : StateKind) (label : String) (line : Nat) :
    Twin fallback (c.enter kind label line) (d.enter kind label line) :=
  ⟨twin.closed, twin.closed_other, twin.respelled, congrArg (_ :: ·) twin.opened⟩

/-- The start of a tag and its keyword, which is not that of the tag that prints. -/
theorem keyword (twin : Twin fallback c d) (along : c.Passes [start, word] c') (isStart : start.kind = .tagStart)
    (isKeyword : word.kind = .keyword) (other : word.value ≠ printKeyword) :
    ∃ d', d.Passes [start, word] d' ∧ Twin fallback c' d' := by
  have respelled := twin.respelled
  rw [along.tokens] at respelled
  obtain ⟨rest, others, respelled⟩ := respelled.keyword isStart isKeyword other
  have others : d.tokens = [start, word] ++ rest := others
  have some_token : rest ≠ [] := respelled.ne_nil c'.tokens_ne_nil
  have onward := Cursor.Passes.of_tokens others some_token
  refine ⟨_, onward, twin.closed.behind along, twin.closed_other.behind onward, ?_, ?_⟩
  · rwa [Cursor.tokens_skip others some_token]
  · rw [Cursor.opened_skip, twin.opened, along.opened]

/-- A keyword in front, of a tag or of a block, is in front in both templates, unless it is that of the tag that prints. -/
theorem keyword_ahead (twin : Twin fallback c d) (isStart : c.current.kind = .tagStart)
    (isKeyword : (c.stream.ahead 1).kind = .keyword) (other : (c.stream.ahead 1).value ≠ printKeyword) :
    d.current = c.current ∧ d.stream.ahead 1 = c.stream.ahead 1 := by
  obtain ⟨rest, tokens⟩ := second_of_start twin.closed isStart
  have respelled := twin.respelled
  rw [tokens] at respelled
  obtain ⟨behind, others, -⟩ := respelled.keyword isStart isKeyword other
  exact ⟨Cursor.current_eq others, Cursor.ahead_one others⟩

theorem current (twin : Twin fallback c d) :
    d.current = c.current ∨ c.current.Opens ∧ d.current.Opens := by
  have respelled := twin.respelled
  rw [c.tokens_eq] at respelled
  obtain ⟨first, rest, others, same⟩ := respelled.head
  rwa [Cursor.current_eq others]

theorem same_current (twin : Twin fallback c d) (plain : ¬c.current.Opens) : d.current = c.current :=
  twin.current.resolve_right fun opens => plain opens.1

end Twin

/-- A reading of the other template comes to the same result, in front of the same tokens and of fewer than `bound`. -/
def Retraces (fallback : Option String) (bound : Nat) (found : α × Cursor) (reading : Except ParseError (α × Cursor)) :
    Prop :=
  ∃ d, reading = .ok (found.1, d) ∧ Twin fallback found.2 d ∧ d.tokens.length < bound

namespace Retraces

variable {more : Nat} {found : α × Cursor} {found' : β × Cursor} {reading : Except ParseError (α × Cursor)} {a : α}

theorem of_passes (twin : Twin fallback c d) (along : c.Passes used c') (plain : ∀ token ∈ used, ¬token.Opens)
    (some_token : used ≠ []) (again : ∀ {d'}, d.Passes used d' → reading = .ok (a, d')) :
    Retraces fallback d.tokens.length (a, c') reading := by
  obtain ⟨d', onward, behind⟩ := twin.passes along plain
  have passed := List.length_pos_iff.mpr some_token
  exact ⟨d', again onward, behind, by rw [onward.length]; omega⟩

theorem mono (first : Retraces fallback bound found reading) (most : bound ≤ more) :
    Retraces fallback more found reading := by
  obtain ⟨d, again, twin, shorter⟩ := first
  exact ⟨d, again, twin, Nat.lt_of_lt_of_le shorter most⟩

theorem bind (first : Retraces fallback bound found reading)
    {next : α × Cursor → Except ParseError (β × Cursor)}
    (onward : ∀ {d}, Twin fallback found.2 d → d.tokens.length < bound →
      Retraces fallback more found' (next (found.1, d))) :
    Retraces fallback more found' (reading >>= next) := by
  obtain ⟨d, rfl, twin, shorter⟩ := first
  exact onward twin shorter

theorem map (first : Retraces fallback bound found reading) (result : α → β) :
    Retraces fallback bound (result found.1, found.2) (reading >>= fun found => .ok (result found.1, found.2)) :=
  first.bind fun {d} twin shorter => ⟨d, rfl, twin, shorter⟩

end Retraces

section

variable {tree : Tree} (twin : Twin fallback c d)

theorem not_opens_up_to (kinds : ∀ token ∈ inner, token.kind ∈ innerKinds)
    (isEnd : finish.kind = .tagEnd ∨ finish.kind = .expressionEnd) : ∀ token ∈ inner ++ [finish], ¬token.Opens := by
  intro token member
  rcases List.mem_append.mp member with inside | last
  · exact not_opens_of_inner (kinds token inside)
  · rw [List.mem_singleton.mp last]
    rcases isEnd with isEnd | isEnd <;> exact not_opens_of_kind isEnd (by decide) (by decide)

include twin

theorem tagEnd_retraced (reading : tagEnd c = .ok (token, c')) :
    Retraces fallback d.tokens.length (token, c') (tagEnd d) := by
  obtain ⟨isEnd, along⟩ := (tagEnd_iff twin.closed).mp reading
  apply Retraces.of_passes twin along (not_opens_up_to (List.forall_mem_nil _) (.inl isEnd)) (List.cons_ne_nil _ _)
  intro d' onward
  exact (tagEnd_iff twin.closed_other).mpr ⟨isEnd, onward⟩

theorem expressionTag_retraced (reading : expressionTag r c = .ok (tree, c')) :
    Retraces fallback d.tokens.length (tree, c') (expressionTag r d) := by
  obtain ⟨tokens, finish, whole, isEnd, along⟩ := (expressionTag_iff twin.closed).mp reading
  apply Retraces.of_passes twin along (not_opens_up_to whole.kinds (.inl isEnd)) (by simp)
  intro d' onward
  exact (expressionTag_iff twin.closed_other).mpr ⟨tokens, finish, whole, isEnd, onward⟩

theorem branchKeyword_retraced (reading : branchKeyword c = .ok (word, c')) (other : word.value ≠ printKeyword) :
    Retraces fallback d.tokens.length (word, c') (branchKeyword d) := by
  obtain ⟨start, isStart, isKeyword, along⟩ := (branchKeyword_iff twin.closed).mp reading
  obtain ⟨d', onward, behind⟩ := twin.keyword along isStart isKeyword other
  refine ⟨d', (branchKeyword_iff twin.closed_other).mpr ⟨start, isStart, isKeyword, onward⟩, behind, ?_⟩
  simp [onward.length]

/-- What is closed in one template is closed in the other one; the lines matter to errors only. -/
theorem leave_retraced {kind : StateKind} {label : String} (other : Nat)
    (leaving : c.leave kind label line = .ok c') :
    ∃ d', d.leave kind label other = .ok d' ∧ Twin fallback c' d' ∧ d'.tokens = d.tokens := by
  unfold Cursor.leave at leaving ⊢
  rw [twin.opened]
  split at leaving
  · cases leaving
    exact ⟨_, rfl, ⟨twin.closed, twin.closed_other, twin.respelled, rfl⟩, rfl⟩
  · cases leaving

theorem loopHeader_retraced (fits : fitsGrammar Core.forTag c = true) {targets : LoopVariables × Tree}
    (reading : loopHeader r c = .ok (targets, c')) :
    fitsGrammar Core.forTag d = true ∧ Retraces fallback d.tokens.length (targets, c') (loopHeader r d) := by
  obtain ⟨head, finish, isHead, isEnd, along⟩ := loopHeader_sound twin.closed fits reading
  obtain ⟨d', onward, behind⟩ := twin.passes along (not_opens_up_to isHead.kinds (.inl isEnd))
  obtain ⟨fits, again⟩ := loopHeader_complete twin.closed_other isHead isEnd onward
  exact ⟨fits, d', again, behind, by simp [onward.length]⟩

/-- Behind the keyword of a nested template stand its name and the end of the tag. -/
theorem nestedHead_retraced (fits : fitsGrammar Core.templateTag c = true) (reading : tagEnd c.next = .ok (token, c')) :
    fitsGrammar Core.templateTag d = true ∧ d.current = c.current ∧
      Retraces fallback d.tokens.length (token, c') (tagEnd d.next) := by
  have isName := (fitsGrammar_template.mp fits).1
  have plain : ¬c.current.Opens := by rintro (opens | opens) <;> simp [opens] at isName
  have inside : c.current.kind ≠ .eof := by rcases isName with kind | kind <;> simp [kind]
  have overName := twin.closed.next inside
  obtain ⟨isEnd, overEnd⟩ := (tagEnd_iff (twin.closed.behind overName)).mp reading
  obtain ⟨between, front, behindName⟩ := twin.passes overName (by simpa using plain)
  obtain ⟨d', back, behind⟩ := behindName.passes overEnd (not_opens_up_to (List.forall_mem_nil _) (.inl isEnd))
  have along : d.Passes [c.current, token] d' := front.trans back
  have again : tagEnd d.next = .ok (token, d') := by
    rw [← front.uncons.2.eq_of_nil]
    exact (tagEnd_iff behindName.closed_other).mpr ⟨isEnd, back⟩
  refine ⟨?_, twin.same_current plain, d', again, behind, by simp [along.length]⟩
  rw [fitsGrammar_template, Cursor.current_eq along.tokens, Cursor.ahead_one along.tokens]
  exact ⟨isName, isEnd⟩

theorem assignment_retraced (enough : Nat) (fits : fitsGrammar Core.setTag c = true)
    (reading : tagRest s (budget + 1) id Core.setTag line c = .ok (tree, c')) :
    fitsGrammar Core.setTag d = true ∧
      Retraces fallback d.tokens.length (tree, c') (tagRest s (enough + 1) id Core.setTag line d) := by
  rw [tagRest] at reading
  obtain ⟨⟨target, afterName⟩, naming, rest⟩ := bind_eq_ok.mp reading
  obtain ⟨⟨equals, afterSign⟩, sign, rest⟩ := bind_eq_ok.mp rest
  obtain ⟨⟨value, last⟩, taking, ⟨⟩⟩ := bind_eq_ok.mp rest
  obtain ⟨isVariable, overName⟩ := (name_iff twin.closed).mp naming
  obtain ⟨isEquals, overSign⟩ := (expect_iff (twin.closed.behind overName) (by decide)).mp sign
  have isSign : equals.isPunctuation "=" = true := isEquals
  have plain : ¬target.Opens ∧ ¬equals.Opens :=
    ⟨not_opens_of_inner (kind_of_isVariable isVariable), not_opens_of_inner (kind_of_isPunctuation isSign)⟩
  obtain ⟨between, front, behindName⟩ := twin.passes overName (by simpa using plain.1)
  obtain ⟨behind, back, behindSign⟩ := behindName.passes overSign (by simpa using plain.2)
  have along := overName.trans overSign
  have head := front.trans back
  constructor
  · rw [fitsGrammar_set] at fits ⊢
    rw [Cursor.current_eq along.tokens, Cursor.ahead_one along.tokens] at fits
    rwa [Cursor.current_eq head.tokens, Cursor.ahead_one head.tokens]
  · have named : name "variable name" d = .ok (target, between) := (name_iff twin.closed_other).mpr ⟨isVariable, front⟩
    have signed := (expect_iff behindName.closed_other (by decide)).mpr ⟨isEquals, back⟩
    have valued := (expressionTag_retraced behindSign taking).map fun value =>
      Tree.tag id [value] line (Annotations.set {} "name" (.text target.value))
    rw [tagRest, show Core.setTag.form = .assignment from rfl]
    dsimp only
    rw [named]
    dsimp only [ok_bind]
    rw [signed]
    exact valued.mono (by simp [head.length])

/-- Before the first branch of a choice only blanks stand, and a keyword of the choice follows. -/
theorem firstBranch_retraced (inert : s.registries.tags.ownsKeyword "switch" printKeyword = false)
    (reading : firstBranch s line c = .ok c') :
    ∃ d', firstBranch s line d = .ok d' ∧ Twin fallback c' d' ∧ d'.tokens.length ≤ d.tokens.length := by
  obtain ⟨blanks, areBlank, along, isStart, isKeyword, owned⟩ := (firstBranch_iff twin.closed).mp reading
  obtain ⟨d', onward, behind⟩ := twin.passes along fun blank member =>
    not_opens_of_kind (areBlank blank member).1 (by decide) (by decide)
  have other : (c'.stream.ahead 1).value ≠ printKeyword := fun isPrint => by simp [isPrint, inert] at owned
  obtain ⟨here, ahead⟩ := behind.keyword_ahead isStart isKeyword other
  have atBranch : AtBranch s d' := by
    unfold AtBranch
    rw [here, ahead]
    exact ⟨isStart, isKeyword, owned⟩
  exact ⟨d', (firstBranch_iff twin.closed_other).mpr ⟨blanks, areBlank, onward, atBranch⟩, behind,
    by simp [onward.length]⟩

end

end Parse

end Templating
