import Templating.Proofs.TagReading

/-! # Templates that were read

What was read as a template is one by the grammar, with the tree that was read. The induction is on the
budget: a tag is read with less of it than the body that it stands in.
-/

namespace Templating.Parse

variable {s : Setting} {c c' : Cursor} {tree : Tree} {budget : Nat}

/-- Reading a body stops here: at the end of the template outside all blocks, or at a keyword of the
innermost block. -/
def Ended (s : Setting) (c : Cursor) : Prop :=
  c.current.kind = .eof ∧ (c.opened.head?.filter fun top => top.kind != .text) = none ∨
  c.current.kind = .tagStart ∧ (c.stream.ahead 1).kind = .keyword ∧
    s.topOwns c (c.stream.ahead 1).value = true

theorem isBlockKeyword_of_topOwns {keyword : String} (owned : s.topOwns c keyword = true) :
    s.registries.tags.isBlockKeyword keyword = true := by
  rw [Setting.topOwns] at owned
  split at owned
  · cases owned
  · rw [Bool.and_eq_true, TagRegistry.ownsKeyword, List.any_eq_true] at owned
    obtain ⟨tag, member, owns⟩ := owned.2
    rw [TagRegistry.isBlockKeyword, List.any_eq_true]
    exact ⟨tag, member, (Bool.and_eq_true_iff.mp owns).2⟩

theorem resolveTag_iff (core : CoreSetting s) {id : Nat} :
    resolveTag s c = .ok (id, c') ↔
      c.current.kind = .keyword ∧ s.registries.tags.lookup? c.current.value = some id ∧ c' = c.next := by
  rw [resolveTag]
  dsimp only
  rw [core.fallback]
  by_cases isKeyword : c.current.kind = .keyword
  · rw [if_pos isKeyword]
    cases s.registries.tags.lookup? c.current.value with
    | none => simp [isKeyword]
    | some found => simp [isKeyword, eq_comm]
  · rw [if_neg isKeyword]
    dsimp only
    split <;> simp [isKeyword]

theorem lookup?_core {keyword : String} {id : Nat} :
    TagRegistry.lookup? ⟨Core.tags⟩ keyword = some id ↔
      ∃ definition, Core.tags[id]? = some definition ∧ definition.keyword = keyword := by
  constructor
  · intro found
    obtain ⟨inRange, isKeyword, -⟩ := List.findIdx?_eq_some_iff_getElem.mp found
    exact ⟨Core.tags[id], List.getElem?_eq_getElem inRange, beq_iff_eq.mp isKeyword⟩
  · rintro ⟨definition, numbered, rfl⟩
    have numbers : ∀ place : Fin Core.tags.length,
        TagRegistry.lookup? ⟨Core.tags⟩ (Core.tags.get place).keyword = some place.val := by decide
    obtain ⟨inRange, rfl⟩ := List.getElem?_eq_some_iff.mp numbered
    exact numbers ⟨id, inRange⟩

/-- A tag is read by the keyword that names it, if what follows fits its grammar. -/
theorem tag_complete (core : s.HasCoreTags) (closed : c.Closed) {start word : Token} {between : Cursor} {id : Nat}
    {definition : TagDefinition} (isStart : start.kind = .tagStart) (isKeyword : word.kind = .keyword)
    (passes : c.Passes [start, word] between) (numbered : Core.tags[id]? = some definition)
    (named : definition.keyword = word.value) (fits : fitsGrammar definition between = true)
    (rest : tagRest s budget id definition start.line between = .ok (tree, c')) :
    tag s (budget + 1) c = .ok (tree, c') := by
  have passes : c.Passes ([start] ++ [word]) between := passes
  obtain ⟨along, onward⟩ := passes.split
  obtain ⟨here, nothing⟩ := onward.uncons
  have known : s.registries.tags.get? id = some definition := by
    rw [core.registry]
    exact numbered
  have found : resolveTag s (c.skip [start].length) = .ok (id, between) := by
    rw [resolveTag, here]
    dsimp only
    rw [if_pos isKeyword, core.registry, lookup?_core.mpr ⟨definition, numbered, named⟩, nothing.eq_of_nil]
  rw [tag, (expect_iff closed (by decide)).mpr ⟨fits_kind.mpr isStart, along⟩]
  dsimp only [ok_bind]
  rw [found]
  dsimp only [ok_bind]
  rw [known]
  exact (if_pos fits).trans rest

theorem tag_iff (core : CoreSetting s) (closed : c.Closed) :
    tag s (budget + 1) c = .ok (tree, c') ↔
      ∃ start word between id definition, start.kind = .tagStart ∧ word.kind = .keyword ∧
        c.Passes [start, word] between ∧ Core.tags[id]? = some definition ∧ definition.keyword = word.value ∧
        fitsGrammar definition between = true ∧
        tagRest s budget id definition start.line between = .ok (tree, c') := by
  constructor
  · intro reading
    rw [tag] at reading
    obtain ⟨⟨start, middle⟩, opening, rest⟩ := bind_eq_ok.mp reading
    obtain ⟨⟨id, between⟩, resolving, rest⟩ := bind_eq_ok.mp rest
    obtain ⟨isStart, along⟩ := (expect_iff closed (by decide)).mp opening
    obtain ⟨isKeyword, found, rfl⟩ := (resolveTag_iff core).mp resolving
    have onward := (closed.behind along).next (by rw [isKeyword]; decide)
    rw [core.registry] at found
    obtain ⟨definition, numbered, named⟩ := lookup?_core.mp found
    have known : s.registries.tags.get? id = some definition := by
      rw [TagRegistry.get?, core.tags]
      exact numbered
    dsimp only at rest
    rw [known] at rest
    dsimp only at rest
    split at rest
    · rename_i fits
      exact ⟨start, _, _, id, definition, fits_kind.mp isStart, isKeyword, along.trans onward, numbered, named,
        fits, rest⟩
    · cases rest
  · rintro ⟨start, word, between, id, definition, isStart, isKeyword, passes, numbered, named, fits, rest⟩
    exact tag_complete core.hasCoreTags closed isStart isKeyword passes numbered named fits rest

theorem fitsGrammar_set : fitsGrammar Core.setTag c = true ↔
    c.current.kind = .identifier ∧ (c.stream.ahead 1).isPunctuation "=" = true := by
  simp [fitsGrammar, Core.setTag, TokenStream.testSequence, TokenPattern.accepts,
    Token.isPunctuation, TokenStream.ahead, Cursor.current]

theorem fitsGrammar_template : fitsGrammar Core.templateTag c = true ↔
    (c.current.kind = .identifier ∨ c.current.kind = .string) ∧ (c.stream.ahead 1).kind = .tagEnd := by
  simp [fitsGrammar, Core.templateTag, TokenStream.testSequence, TokenPattern.accepts,
    TokenStream.ahead, Cursor.current, or_and_right]

theorem ownsKeyword_template {keyword : String}
    (owned : TagRegistry.ownsKeyword ⟨Core.tags⟩ "template" keyword = true) :
    keyword = "endtemplate" := by
  simpa [TagRegistry.ownsKeyword, Core.tags, Core.printTag, Core.ifTag, Core.forTag, Core.switchTag, Core.setTag,
    Core.includeTag, Core.templateTag, TagDefinition.blockKeywords, printKeyword, eq_comm] using owned

/-- A body that was read with a budget is one by the grammar. -/
def BodySound (s : Setting) (budget : Nat) : Prop :=
  ∀ c trees c', c.Closed → body s budget c = .ok (trees, c') →
    ∃ used, c.Passes used c' ∧ Body s.registries used trees ∧ Ended s c'

/-- Branches that were read with a budget are branches by the grammar; behind the last one only the ending
stands. -/
def BranchesSound (s : Setting) (budget : Nat) : Prop :=
  ∀ definition words c line hasLast later flag c', c.Closed →
    branches s budget definition words hasLast (openBlock definition line c) = .ok ((later, flag), c') →
    ∃ used, c.Passes used c' ∧ (hasLast = false → Branches s.registries words used later flag) ∧
      (hasLast = true → later = [] ∧ flag = true ∧ ∃ ending : TagTokens words.ending, used = ending.around [])

section

variable {line : Nat} {definition : TagDefinition} {words : BranchWords} {between : Cursor}

theorem block_sound (bodies : ∀ smaller < budget, BodySound s smaller) (closed : c.Closed)
    (reading : block s budget line c = .ok (tree, c')) :
    ∃ used trees, tree = .block trees line {} ∧ c.Passes used c' ∧ Body s.registries used trees ∧ Ended s c' := by
  cases budget with
  | zero =>
      rw [block] at reading
      cases reading
  | succ budget =>
      rw [block] at reading
      obtain ⟨⟨trees, last⟩, taking, result⟩ := bind_eq_ok.mp reading
      cases result
      obtain ⟨used, passes, derived, ended⟩ := bodies budget (Nat.lt_succ_self _) c trees _ closed taking
      exact ⟨used, trees, rfl, passes, derived, ended⟩

theorem openBlock_sound (bodies : ∀ smaller < budget, BodySound s smaller) (closed : c.Closed) {open_ : Nat}
    (reading : block s budget line (openBlock definition open_ c) = .ok (tree, between)) :
    ∃ used trees behind, tree = .block trees line {} ∧ between = openBlock definition open_ behind ∧
      c.Passes used behind ∧ Body s.registries used trees ∧ Ended s between := by
  obtain ⟨used, trees, rfl, entered, derived, ended⟩ := block_sound bodies (closed.enter _ _ _) reading
  obtain ⟨behind, rfl, passes⟩ := entered.of_enter
  exact ⟨used, trees, behind, rfl, rfl, passes, derived, ended⟩

theorem closeBlock_sound {word finish : Token} {text : String} (closed : c.Closed) {last : Cursor}
    (named : word.value = text)
    (keyword : branchKeyword (openBlock definition line c) = .ok (word, between))
    (ending : tagEnd between = .ok (finish, last)) (closing : closeBlock definition finish.line last = .ok c') :
    ∃ tag : TagTokens text, c.Passes (tag.around []) c' := by
  obtain ⟨start, isStart, isKeyword, front⟩ := (branchKeyword_iff (closed.enter _ _ _)).mp keyword
  obtain ⟨behind, rfl, passes⟩ := front.of_enter
  obtain ⟨isEnd, back⟩ := (tagEnd_iff ((closed.behind passes).enter _ _ _)).mp ending
  obtain ⟨final, rfl, onward⟩ := back.of_enter
  rw [closeBlock, Cursor.leave_enter] at closing
  cases closing
  exact ⟨⟨start, word, finish, isStart, isKeyword, named, isEnd⟩, passes.trans onward⟩

theorem branches_sound (bodies : ∀ smaller < budget, BodySound s smaller)
    (rests : ∀ smaller < budget, BranchesSound s smaller) : BranchesSound s budget := by
  intro definition words c line hasLast later flag c' closed reading
  cases budget with
  | zero =>
      rw [branches] at reading
      cases reading
  | succ budget =>
      have smaller : ∀ less < budget, BodySound s less := fun less below => bodies less (by omega)
      rw [branches] at reading
      obtain ⟨⟨word, between⟩, keyword, rest⟩ := bind_eq_ok.mp reading
      obtain ⟨start, isStart, isKeyword, entered⟩ := (branchKeyword_iff (closed.enter _ _ _)).mp keyword
      obtain ⟨behind, rfl, passes⟩ := entered.of_enter
      have inside := closed.behind passes
      dsimp only at rest
      split at rest
      · rename_i isTest
        obtain ⟨⟨value, afterValue⟩, taking, rest⟩ := bind_eq_ok.mp rest
        obtain ⟨⟨content, afterContent⟩, blocking, rest⟩ := bind_eq_ok.mp rest
        obtain ⟨⟨⟨found, hasLater⟩, last⟩, onward, result⟩ := bind_eq_ok.mp rest
        cases result
        obtain ⟨tokens, finish, whole, isEnd, valued⟩ := (expressionTag_iff (inside.enter _ _ _)).mp taking
        obtain ⟨middle, rfl, overValue⟩ := valued.of_enter
        obtain ⟨body, trees, next, rfl, rfl, overBody, derived, -⟩ :=
          openBlock_sound smaller (inside.behind overValue) blocking
        obtain ⟨more, overRest, branching, -⟩ := rests budget (Nat.lt_succ_self _) definition words next line
          hasLast found _ last ((inside.behind overValue).behind overBody) onward
        let tag : TagTokens word.value := ⟨start, word, finish, isStart, isKeyword, rfl, isEnd⟩
        have along : c.Passes (tag.around tokens ++ body ++ more) last := by
          simpa [TagTokens.around] using passes.trans (overValue.trans (overBody.trans overRest))
        refine ⟨_, along, fun _ => .test tag isTest.1 whole derived (branching isTest.2), fun hasLast => ?_⟩
        rw [isTest.2] at hasLast
        cases hasLast
      split at rest
      · rename_i isLast
        obtain ⟨⟨finish, afterWord⟩, ending, rest⟩ := bind_eq_ok.mp rest
        obtain ⟨⟨content, afterContent⟩, blocking, rest⟩ := bind_eq_ok.mp rest
        obtain ⟨⟨⟨found, hasLater⟩, last⟩, onward, result⟩ := bind_eq_ok.mp rest
        cases result
        obtain ⟨isEnd, ended⟩ := (tagEnd_iff (inside.enter _ _ _)).mp ending
        obtain ⟨middle, rfl, overEnd⟩ := ended.of_enter
        obtain ⟨body, trees, next, rfl, rfl, overBody, derived, -⟩ :=
          openBlock_sound smaller (inside.behind overEnd) blocking
        obtain ⟨more, overRest, -, closing⟩ := rests budget (Nat.lt_succ_self _) definition words next line
          true found _ last ((inside.behind overEnd).behind overBody) onward
        obtain ⟨rfl, rfl, closer, rfl⟩ := closing rfl
        let tag : TagTokens words.last := ⟨start, word, finish, isStart, isKeyword, isLast.1.symm, isEnd⟩
        have along : c.Passes (tag.around [] ++ body ++ closer.around []) last := by
          simpa [TagTokens.around] using passes.trans (overEnd.trans (overBody.trans overRest))
        refine ⟨_, along, fun _ => .last tag closer derived, fun hasLast => ?_⟩
        rw [isLast.2] at hasLast
        cases hasLast
      split at rest
      · rename_i isEnding
        obtain ⟨⟨finish, afterWord⟩, ending, rest⟩ := bind_eq_ok.mp rest
        obtain ⟨last, closing, result⟩ := bind_eq_ok.mp rest
        cases result
        obtain ⟨tag, along⟩ := closeBlock_sound closed isEnding.symm keyword ending closing
        refine ⟨_, along, ?_, fun hasLast => ⟨rfl, hasLast, tag, rfl⟩⟩
        rintro rfl
        exact .ending tag
      · cases rest

theorem divided_sound (bodies : ∀ smaller < budget, BodySound s smaller) (rests : BranchesSound s budget)
    (closed : c.Closed) {first : Tree} {later : List Tree} {flag : Bool}
    (blocking : block s budget line (openBlock definition line c) = .ok (first, between))
    (branching : branches s budget definition words false between = .ok ((later, flag), c')) :
    ∃ body rest trees, first = .block trees line {} ∧ c.Passes (body ++ rest) c' ∧
      Body s.registries body trees ∧ Branches s.registries words rest later flag := by
  obtain ⟨body, trees, behind, rfl, rfl, overBody, derived, -⟩ := openBlock_sound bodies closed blocking
  obtain ⟨rest, overRest, divided, -⟩ :=
    rests definition words behind line false later flag c' (closed.behind overBody) branching
  exact ⟨body, rest, trees, rfl, overBody.trans overRest, derived, divided rfl⟩

end

theorem Ended.closer {line : Nat} {word : Token} {between : Cursor}
    (owns : ∀ keyword, s.registries.tags.ownsKeyword "template" keyword = true → keyword = "endtemplate")
    (ended : Ended s (openBlock Core.templateTag line c)) (closed : c.Closed)
    (keyword : branchKeyword (openBlock Core.templateTag line c) = .ok (word, between)) :
    word.value = "endtemplate" := by
  obtain ⟨start, isStart, isKeyword, passes⟩ := (branchKeyword_iff (closed.enter _ _ _)).mp keyword
  rcases ended with ⟨-, outside⟩ | ⟨-, -, owned⟩
  · cases outside
  · have second : (openBlock Core.templateTag line c).stream.ahead 1 = word := Cursor.ahead_one passes.tokens
    rw [second] at owned
    exact owns _ owned

-- Behind its keyword a tag is read by its form.

section

variable {start word : Token} {between : Cursor} (closed : c.Closed) (isStart : start.kind = .tagStart)
  (isKeyword : word.kind = .keyword) (passes : c.Passes [start, word] between)

include closed isStart isKeyword passes

theorem expressionTag_sound {text : String} (named : text = word.value) {value : Tree}
    (taking : expressionTag s.registries between = .ok (value, c')) :
    ∃ (tag : TagTokens text) (tokens : List Token), tag.start = start ∧ ReadsWhole s.registries tokens value ∧
      c.Passes (tag.around tokens) c' := by
  obtain ⟨tokens, finish, whole, isEnd, onward⟩ := (expressionTag_iff (closed.behind passes)).mp taking
  exact ⟨⟨start, word, finish, isStart, isKeyword, named.symm, isEnd⟩, tokens, rfl, whole,
    by simpa [TagTokens.around] using passes.trans onward⟩

theorem print_sound (named : "print" = word.value)
    (reading : tagRest s (budget + 1) 0 Core.printTag start.line between = .ok (tree, c')) :
    ∃ used, c.Passes used c' ∧ Piece s.registries used tree := by
  rw [tagRest] at reading
  obtain ⟨⟨value, last⟩, taking, result⟩ := bind_eq_ok.mp reading
  cases result
  obtain ⟨tag, tokens, rfl, whole, along⟩ := expressionTag_sound closed isStart isKeyword passes named taking
  exact ⟨_, along, .print tag whole⟩

theorem inclusion_sound (named : "include" = word.value)
    (reading : tagRest s (budget + 1) 5 Core.includeTag start.line between = .ok (tree, c')) :
    ∃ used, c.Passes used c' ∧ Piece s.registries used tree := by
  rw [tagRest] at reading
  obtain ⟨⟨value, last⟩, taking, result⟩ := bind_eq_ok.mp reading
  cases result
  obtain ⟨tag, tokens, rfl, whole, along⟩ := expressionTag_sound closed isStart isKeyword passes named taking
  exact ⟨_, along, .inclusion tag whole⟩

theorem conditional_sound (bodies : ∀ smaller < budget, BodySound s smaller) (rests : BranchesSound s budget)
    (named : "if" = word.value)
    (reading : tagRest s (budget + 1) 1 Core.ifTag start.line between = .ok (tree, c')) :
    ∃ used, c.Passes used c' ∧ Piece s.registries used tree := by
  rw [tagRest] at reading
  obtain ⟨⟨condition, afterHead⟩, taking, rest⟩ := bind_eq_ok.mp reading
  obtain ⟨⟨first, afterBody⟩, blocking, rest⟩ := bind_eq_ok.mp rest
  obtain ⟨⟨⟨later, hasElse⟩, last⟩, branching, result⟩ := bind_eq_ok.mp rest
  cases result
  obtain ⟨tag, tokens, rfl, whole, along⟩ := expressionTag_sound closed isStart isKeyword passes named taking
  obtain ⟨body, more, trees, rfl, onward, derived, divided⟩ :=
    divided_sound bodies rests (closed.behind along) blocking branching
  exact ⟨_, by simpa using along.trans onward, .conditional tag whole derived divided⟩

theorem loop_sound (bodies : ∀ smaller < budget, BodySound s smaller) (rests : BranchesSound s budget)
    (named : "for" = word.value) (fits : fitsGrammar Core.forTag between = true)
    (reading : tagRest s (budget + 1) 2 Core.forTag start.line between = .ok (tree, c')) :
    ∃ used, c.Passes used c' ∧ Piece s.registries used tree := by
  rw [tagRest] at reading
  obtain ⟨⟨⟨targets, iterable⟩, afterHead⟩, taking, rest⟩ := bind_eq_ok.mp reading
  obtain ⟨⟨first, afterBody⟩, blocking, rest⟩ := bind_eq_ok.mp rest
  obtain ⟨⟨⟨later, hasElse⟩, last⟩, branching, result⟩ := bind_eq_ok.mp rest
  cases result
  obtain ⟨head, finish, isHead, isEnd, overHead⟩ := loopHeader_sound (closed.behind passes) fits taking
  obtain ⟨body, more, trees, rfl, onward, derived, divided⟩ :=
    divided_sound bodies rests ((closed.behind passes).behind overHead) blocking branching
  let tag : TagTokens "for" := ⟨start, word, finish, isStart, isKeyword, named.symm, isEnd⟩
  have along : c.Passes (tag.around head ++ body ++ more) c' := by
    simpa [TagTokens.around] using passes.trans (overHead.trans onward)
  exact ⟨_, along, .loop tag isHead derived divided⟩

theorem switch_sound (rests : BranchesSound s budget) (named : "switch" = word.value)
    (reading : tagRest s (budget + 1) 3 Core.switchTag start.line between = .ok (tree, c')) :
    ∃ used, c.Passes used c' ∧ Piece s.registries used tree := by
  rw [tagRest] at reading
  obtain ⟨⟨subject, afterHead⟩, taking, rest⟩ := bind_eq_ok.mp reading
  obtain ⟨afterBlanks, skipping, rest⟩ := bind_eq_ok.mp rest
  obtain ⟨⟨⟨later, hasDefault⟩, last⟩, branching, result⟩ := bind_eq_ok.mp rest
  cases result
  obtain ⟨tag, tokens, rfl, whole, along⟩ := expressionTag_sound closed isStart isKeyword passes named taking
  have inside := closed.behind along
  obtain ⟨blanks, areBlank, entered, -⟩ := (firstBranch_iff (inside.enter _ _ _)).mp skipping
  obtain ⟨behind, rfl, overBlanks⟩ := entered.of_enter
  obtain ⟨more, onward, divided, -⟩ := rests Core.switchTag switchWords behind tag.start.line false later
    hasDefault c' (inside.behind overBlanks) branching
  exact ⟨_, by simpa using along.trans (overBlanks.trans onward), .switch tag whole areBlank (divided rfl)⟩

theorem assignment_sound (named : "set" = word.value) (fits : fitsGrammar Core.setTag between = true)
    (reading : tagRest s (budget + 1) 4 Core.setTag start.line between = .ok (tree, c')) :
    ∃ used, c.Passes used c' ∧ Piece s.registries used tree := by
  rw [tagRest] at reading
  obtain ⟨⟨target, afterName⟩, naming, rest⟩ := bind_eq_ok.mp reading
  obtain ⟨⟨equals, afterSign⟩, sign, rest⟩ := bind_eq_ok.mp rest
  obtain ⟨⟨value, last⟩, taking, result⟩ := bind_eq_ok.mp rest
  cases result
  have inside := closed.behind passes
  obtain ⟨-, overName⟩ := (name_iff inside).mp naming
  obtain ⟨isEquals, overSign⟩ := (expect_iff (inside.behind overName) (by decide)).mp sign
  obtain ⟨tokens, finish, whole, isEnd, onward⟩ :=
    (expressionTag_iff ((inside.behind overName).behind overSign)).mp taking
  have isIdentifier : target.kind = .identifier := by
    rw [← overName.uncons.1]
    exact (fitsGrammar_set.mp fits).1
  let tag : TagTokens "set" := ⟨start, word, finish, isStart, isKeyword, named.symm, isEnd⟩
  have along : c.Passes (tag.around (target :: equals :: tokens)) c' := by
    simpa [TagTokens.around] using passes.trans (overName.trans (overSign.trans onward))
  refine ⟨_, along, .assignment tag isIdentifier ?_ whole⟩
  rw [TokenStream.fits, Option.all_some] at isEquals
  exact isEquals

theorem nested_sound (core : CoreSetting s) (bodies : ∀ smaller < budget, BodySound s smaller)
    (named : "template" = word.value) (fits : fitsGrammar Core.templateTag between = true)
    (reading : tagRest s (budget + 1) 6 Core.templateTag start.line between = .ok (tree, c')) :
    ∃ used, c.Passes used c' ∧ Piece s.registries used tree := by
  rw [tagRest] at reading
  obtain ⟨⟨finish, afterHead⟩, ending, rest⟩ := bind_eq_ok.mp reading
  obtain ⟨⟨content, afterBody⟩, blocking, rest⟩ := bind_eq_ok.mp rest
  obtain ⟨⟨closer, afterCloser⟩, keyword, rest⟩ := bind_eq_ok.mp rest
  obtain ⟨⟨last, afterEnd⟩, finishing, rest⟩ := bind_eq_ok.mp rest
  obtain ⟨behind, closing, result⟩ := bind_eq_ok.mp rest
  cases result
  have inside := closed.behind passes
  have isName := (fitsGrammar_template.mp fits).1
  have overName := inside.next (by rcases isName with kind | kind <;> rw [kind] <;> decide)
  obtain ⟨isEnd, overEnd⟩ := (tagEnd_iff (inside.behind overName)).mp ending
  have inner := (inside.behind overName).behind overEnd
  obtain ⟨body, trees, next, rfl, rfl, overBody, derived, ended⟩ := openBlock_sound bodies inner blocking
  have owns (keyword : String) (owned : s.registries.tags.ownsKeyword "template" keyword = true) :
      keyword = "endtemplate" := ownsKeyword_template (core.registry ▸ owned)
  have isClosing : closer.value = "endtemplate" := ended.closer owns (inner.behind overBody) keyword
  obtain ⟨closingTag, overClosing⟩ := closeBlock_sound (inner.behind overBody) isClosing keyword finishing closing
  let tag : TagTokens "template" := ⟨start, word, finish, isStart, isKeyword, named.symm, isEnd⟩
  have along : c.Passes (tag.around [between.current] ++ body ++ closingTag.around []) c' := by
    simpa [TagTokens.around] using
      passes.trans (overName.trans (overEnd.trans (overBody.trans overClosing)))
  exact ⟨_, along, .nested tag closingTag isName derived⟩

end

theorem tag_sound (core : CoreSetting s) (bodies : ∀ smaller < budget, BodySound s smaller)
    (rests : ∀ smaller < budget, BranchesSound s smaller) (closed : c.Closed)
    (reading : tag s budget c = .ok (tree, c')) : ∃ used, c.Passes used c' ∧ Piece s.registries used tree := by
  rcases budget with - | - | budget
  · rw [tag] at reading
    cases reading
  · obtain ⟨start, word, between, id, definition, -, -, -, -, -, -, rest⟩ := (tag_iff core closed).mp reading
    rw [tagRest] at rest
    cases rest
  obtain ⟨start, word, between, id, definition, isStart, isKeyword, passes, numbered, named, fits, rest⟩ :=
    (tag_iff core closed).mp reading
  have bodies : ∀ smaller < budget, BodySound s smaller := fun smaller below => bodies smaller (by omega)
  have branches : BranchesSound s budget := rests budget (by omega)
  rcases id with - | - | - | - | - | - | - | id
  · cases numbered
    exact print_sound closed isStart isKeyword passes named rest
  · cases numbered
    exact conditional_sound closed isStart isKeyword passes bodies branches named rest
  · cases numbered
    exact loop_sound closed isStart isKeyword passes bodies branches named fits rest
  · cases numbered
    exact switch_sound closed isStart isKeyword passes branches named rest
  · cases numbered
    exact assignment_sound closed isStart isKeyword passes named fits rest
  · cases numbered
    exact inclusion_sound closed isStart isKeyword passes named rest
  · cases numbered
    exact nested_sound closed isStart isKeyword passes core bodies named fits rest
  · cases numbered

theorem textNode_eq (core : s.HasCoreTags) (token : Token) :
    textNode s token = .ok (.tag 0 [.data (.string token.value) token.line {}] token.line
      (Annotations.set {} "text" (.bool true))) := by
  rw [textNode, core.printTag]
  rfl

theorem body_sound (core : CoreSetting s) (bodies : ∀ smaller < budget, BodySound s smaller)
    (rests : ∀ smaller < budget, BranchesSound s smaller) : BodySound s budget := by
  intro c trees c' closed reading
  cases budget with
  | zero =>
      rw [body] at reading
      cases reading
  | succ budget =>
      have onward : ∀ {d : Cursor} {piece : List Token} {node : Tree} {later : List Tree} {last : Cursor},
          c.Passes piece d → Piece s.registries piece node → body s budget d = .ok (later, last) →
          ∃ used, c.Passes used last ∧ Body s.registries used (node :: later) ∧ Ended s last := by
        intro d piece node later last passes isPiece following
        obtain ⟨used, along, derived, ended⟩ :=
          bodies budget (Nat.lt_succ_self _) d later last (closed.behind passes) following
        exact ⟨piece ++ used, passes.trans along, .cons isPiece derived, ended⟩
      rw [body] at reading
      split at reading
      · rename_i isEnd
        split at reading
        · cases reading
        · rename_i outside
          cases reading
          exact ⟨[], .refl c, .nil, .inl ⟨isEnd, outside⟩⟩
      · rename_i isText
        obtain ⟨node, nodal, rest⟩ := bind_eq_ok.mp reading
        obtain ⟨⟨later, last⟩, following, result⟩ := bind_eq_ok.mp rest
        cases result
        rw [textNode_eq core.hasCoreTags] at nodal
        cases nodal
        exact onward (closed.next (by rw [isText]; decide)) (.text isText) following
      · rename_i isStart
        obtain ⟨⟨node, between⟩, writing, rest⟩ := bind_eq_ok.mp reading
        obtain ⟨⟨later, last⟩, following, result⟩ := bind_eq_ok.mp rest
        cases result
        obtain ⟨tokens, finish, value, whole, isEnd, passes, rfl⟩ :=
          (output_iff (core.hasCoreTags.printTag _) closed isStart).mp writing
        exact onward passes (.output isStart whole isEnd) following
      · rename_i isStart
        dsimp only at reading
        split at reading
        · rename_i isBlockKeyword
          split at reading
          · rename_i owned
            cases reading
            exact ⟨[], .refl c, .nil, .inr ⟨isStart, isBlockKeyword.1, owned⟩⟩
          · cases reading
        · obtain ⟨⟨node, between⟩, tagging, rest⟩ := bind_eq_ok.mp reading
          obtain ⟨⟨later, last⟩, following, result⟩ := bind_eq_ok.mp rest
          cases result
          obtain ⟨used, passes, isPiece⟩ := tag_sound core (fun smaller below => bodies smaller (by omega))
            (fun smaller below => rests smaller (by omega)) closed tagging
          exact onward passes isPiece following
      · cases reading

theorem readings_sound (core : CoreSetting s) (budget : Nat) : BodySound s budget ∧ BranchesSound s budget := by
  induction budget using Nat.strong_induction_on with
  | _ budget ih =>
      have bodies : ∀ smaller < budget, BodySound s smaller := fun smaller below => (ih smaller below).1
      have rests : ∀ smaller < budget, BranchesSound s smaller := fun smaller below => (ih smaller below).2
      exact ⟨body_sound core bodies rests, branches_sound bodies rests⟩

end Templating.Parse
