import Templating.Proofs.TemplateSoundness

/-! # Reading templates

Tokens are read as a template exactly when they are one by the grammar, and the tree is the one that the
grammar gives. What is derived is read as soon as the budget covers its tokens.
-/

namespace Templating.Parse

variable {s : Setting} {c c' : Cursor} {tree : Tree} {budget : Nat}

/-- A body by the grammar is read with a budget that covers its tokens. -/
def BodyComplete (s : Setting) (budget : Nat) : Prop :=
  ∀ c trees used c', c.Closed → Body s.registries used trees → c.Passes used c' → Ended s c' →
    8 * used.length + 1 ≤ budget → body s budget c = .ok (trees, c')

/-- A tag and the keywords that divide its body: all of them are its own, and no two are the same. -/
structure Divides (s : Setting) (definition : TagDefinition) (words : BranchWords) : Prop where
  isBlock : definition.bodyState.isBlock = true
  owns : ∀ keyword, words.test = some keyword ∨ keyword = words.last ∨ keyword = words.ending →
    s.registries.tags.ownsKeyword definition.keyword keyword = true
  test_ne_last : words.test ≠ some words.last
  test_ne_ending : words.test ≠ some words.ending
  last_ne_ending : words.last ≠ words.ending

/-- Branches by the grammar are read with a budget that covers their tokens. -/
def BranchesComplete (s : Setting) (budget : Nat) : Prop :=
  ∀ definition words c line later flag used c', c.Closed → Divides s definition words →
    Branches s.registries words used later flag → c.Passes used c' → 8 * used.length ≤ budget →
    branches s budget definition words false (openBlock definition line c) = .ok ((later, flag), c')

theorem TagTokens.length_around {keyword : String} (tag : TagTokens keyword) (content : List Token) :
    (tag.around content).length = content.length + 3 := by
  simp [TagTokens.around]

section

variable {line : Nat} {definition : TagDefinition} {words : BranchWords} {trees : List Tree} {used : List Token}

theorem block_complete (bodies : ∀ smaller < budget, BodyComplete s smaller) (closed : c.Closed)
    (derived : Body s.registries used trees) (passes : c.Passes used c') (ended : Ended s c')
    (enough : 8 * used.length + 2 ≤ budget) : block s budget line c = .ok (.block trees line {}, c') := by
  obtain ⟨budget, rfl⟩ : ∃ more, budget = more + 1 := ⟨budget - 1, by omega⟩
  rw [block, bodies budget (Nat.lt_succ_self _) c trees used c' closed derived passes ended (by omega)]
  rfl

/-- A tag with one of the keywords is in front. -/
def AtWord (words : BranchWords) (c : Cursor) : Prop :=
  ∃ start word rest, c.tokens = start :: word :: rest ∧ start.kind = .tagStart ∧ word.kind = .keyword ∧
    (words.test = some word.value ∨ word.value = words.last ∨ word.value = words.ending)

theorem AtWord.ending {ending : TagTokens words.ending} (passes : c.Passes (ending.around []) c') :
    AtWord words c :=
  ⟨_, _, _, passes.tokens, ending.start_kind, ending.word_kind, .inr (.inr ending.word_value)⟩

theorem AtWord.branches {later : List Tree} {flag : Bool}
    (derived : Branches s.registries words used later flag) (passes : c.Passes used c') : AtWord words c := by
  have tokens := passes.tokens
  cases derived with
  | test tag isTest =>
      exact ⟨_, _, _, tokens, tag.start_kind, tag.word_kind, .inl (isTest.trans (by rw [tag.word_value]))⟩
  | last tag ending => exact ⟨_, _, _, tokens, tag.start_kind, tag.word_kind, .inr (.inl tag.word_value)⟩
  | ending tag => exact .ending passes

theorem Divides.ended (divides : Divides s definition words) (ahead : AtWord words c) :
    Ended s (openBlock definition line c) := by
  obtain ⟨start, word, rest, tokens, isStart, isKeyword, isWord⟩ := ahead
  have first : (openBlock definition line c).current = start := Cursor.current_eq tokens
  have second : (openBlock definition line c).stream.ahead 1 = word := Cursor.ahead_one tokens
  refine .inr ⟨by rw [first, isStart], by rw [second, isKeyword], ?_⟩
  rw [second]
  exact Bool.and_eq_true_iff.mpr ⟨divides.isBlock, divides.owns word.value isWord⟩

theorem openBlock_complete (bodies : ∀ smaller < budget, BodyComplete s smaller) (closed : c.Closed)
    (divides : Divides s definition words) (derived : Body s.registries used trees) (passes : c.Passes used c')
    (ahead : AtWord words c') (enough : 8 * used.length + 2 ≤ budget) (opened : Nat) :
    block s budget line (openBlock definition opened c) =
      .ok (.block trees line {}, openBlock definition opened c') :=
  block_complete bodies (closed.enter _ _ _) derived (passes.enter _ _ _) (divides.ended ahead) enough

theorem branchKeyword_complete {text : String} (tag : TagTokens text) (closed : c.Closed)
    (passes : c.Passes [tag.start, tag.word] c') (definition : TagDefinition) (line : Nat) :
    branchKeyword (openBlock definition line c) = .ok (tag.word, openBlock definition line c') :=
  (branchKeyword_iff (closed.enter _ _ _)).mpr ⟨tag.start, tag.start_kind, tag.word_kind, passes.enter _ _ _⟩

theorem branches_ending (divides : Divides s definition words) (closed : c.Closed)
    (ending : TagTokens words.ending) (passes : c.Passes (ending.around []) c') (hasLast : Bool) :
    branches s (budget + 1) definition words hasLast (openBlock definition line c) = .ok (([], hasLast), c') := by
  have passes : c.Passes ([ending.start, ending.word] ++ [ending.finish]) c' := passes
  obtain ⟨front, back⟩ := passes.split
  have finishing := (tagEnd_iff ((closed.behind front).enter definition.bodyState definition.keyword line)).mpr
    ⟨ending.finish_kind, back.enter _ _ _⟩
  rw [branches, branchKeyword_complete ending closed front]
  dsimp only [ok_bind]
  rw [ending.word_value, if_neg (fun same => divides.test_ne_ending same.1),
    if_neg (fun same => divides.last_ne_ending same.1), if_pos rfl, openBlock, finishing]
  dsimp only [ok_bind]
  rw [closeBlock, Cursor.leave_enter]
  rfl

theorem branches_complete (bodies : ∀ smaller < budget, BodyComplete s smaller)
    (rests : ∀ smaller < budget, BranchesComplete s smaller) : BranchesComplete s budget := by
  intro definition words c line later flag used c' closed divides derived passes enough
  cases derived with
  | ending tag =>
      rw [tag.length_around] at enough
      obtain ⟨budget, rfl⟩ : ∃ more, budget = more + 1 := ⟨budget - 1, by omega⟩
      exact branches_ending divides closed tag passes false
  | last tag ending isBody =>
      rename_i body trees
      simp only [List.length_append, tag.length_around, ending.length_around] at enough
      obtain ⟨budget, rfl⟩ : ∃ more, budget = more + 1 + 1 := ⟨budget - 2, by omega⟩
      have passes : c.Passes ([tag.start, tag.word] ++ ([tag.finish] ++ (body ++ ending.around []))) c' := by
        simpa [TagTokens.around] using passes
      obtain ⟨afterWord, front, onward⟩ := passes.between
      obtain ⟨afterHead, finish, onward⟩ := onward.between
      obtain ⟨afterBody, overBody, closing⟩ := onward.between
      have inside := (closed.behind front).behind finish
      have finishing : tagEnd (openBlock definition line afterWord) =
          .ok (tag.finish, openBlock definition line afterHead) :=
        (tagEnd_iff ((closed.behind front).enter _ _ _)).mpr ⟨tag.finish_kind, finish.enter _ _ _⟩
      rw [branches, branchKeyword_complete tag closed front]
      dsimp only [ok_bind]
      rw [tag.word_value, if_neg (fun same => divides.test_ne_last same.1), if_pos ⟨rfl, rfl⟩, finishing]
      dsimp only [ok_bind]
      rw [openBlock_complete (fun smaller below => bodies smaller (by omega)) inside divides isBody overBody
        (.ending closing) (by omega)]
      dsimp only [ok_bind]
      rw [branches_ending divides (inside.behind overBody) ending closing true]
      rfl
  | test tag isTest whole isBody isRest =>
      rename_i keyword tokens body rest value trees found
      simp only [List.length_append, tag.length_around] at enough
      obtain ⟨budget, rfl⟩ : ∃ more, budget = more + 1 := ⟨budget - 1, by omega⟩
      have passes : c.Passes ([tag.start, tag.word] ++ ((tokens ++ [tag.finish]) ++ (body ++ rest))) c' := by
        simpa [TagTokens.around] using passes
      obtain ⟨afterWord, front, onward⟩ := passes.between
      obtain ⟨afterHead, finish, onward⟩ := onward.between
      obtain ⟨afterBody, overBody, closing⟩ := onward.between
      have inside := (closed.behind front).behind finish
      have taking : expressionTag s.registries (openBlock definition line afterWord) =
          .ok (value, openBlock definition line afterHead) :=
        (expressionTag_iff ((closed.behind front).enter _ _ _)).mpr
          ⟨tokens, tag.finish, whole, tag.finish_kind, finish.enter _ _ _⟩
      rw [branches, branchKeyword_complete tag closed front]
      dsimp only [ok_bind]
      rw [tag.word_value, if_pos ⟨isTest, rfl⟩, taking]
      dsimp only [ok_bind]
      rw [openBlock_complete (fun smaller below => bodies smaller (by omega)) inside divides isBody overBody
        (.branches isRest closing) (by omega)]
      dsimp only [ok_bind]
      rw [rests budget (by omega) definition words afterBody line found flag rest c' (inside.behind overBody) divides
        isRest closing (by omega)]
      rfl

theorem divided_complete (bodies : ∀ smaller < budget, BodyComplete s smaller) (rests : BranchesComplete s budget)
    (closed : c.Closed) (divides : Divides s definition words) {rest : List Token} {later : List Tree} {flag : Bool}
    (isBody : Body s.registries used trees) (isRest : Branches s.registries words rest later flag)
    (passes : c.Passes (used ++ rest) c') (enough : 8 * (used.length + rest.length) + 2 ≤ budget) (line : Nat) :
    ∃ between, block s budget line (openBlock definition line c) = .ok (.block trees line {}, between) ∧
      branches s budget definition words false between = .ok ((later, flag), c') := by
  obtain ⟨between, overBody, closing⟩ := passes.between
  exact ⟨_, openBlock_complete bodies closed divides isBody overBody (.branches isRest closing) (by omega) line,
    rests definition words between line later flag rest c' (closed.behind overBody) divides isRest closing
      (by omega)⟩

end

theorem fitsGrammar_expression {definition : TagDefinition} (grammar : definition.grammar = [[.expression]])
    {value : Tree} (taking : expressionTag s.registries c = .ok (value, c')) : fitsGrammar definition c = true := by
  obtain ⟨result, reading, -⟩ := bind_eq_ok.mp taking
  have begins := beginsExpression_of_expression reading
  rw [fitsGrammar, grammar]
  simpa [TokenStream.testSequence, TokenPattern.accepts, TokenStream.ahead, Cursor.current]
    using begins

namespace Setting.HasCoreTags

variable (core : s.HasCoreTags)

include core

theorem divides_if : Divides s Core.ifTag ifWords where
  isBlock := rfl
  owns := by
    rw [core.registry]
    rintro keyword (isTest | rfl | rfl)
    · cases isTest
      decide
    · decide
    · decide
  test_ne_last := by decide
  test_ne_ending := by decide
  last_ne_ending := by decide

theorem divides_for : Divides s Core.forTag forWords where
  isBlock := rfl
  owns := by
    rw [core.registry]
    rintro keyword (isTest | rfl | rfl)
    · cases isTest
    · decide
    · decide
  test_ne_last := by decide
  test_ne_ending := by decide
  last_ne_ending := by decide

theorem divides_switch : Divides s Core.switchTag switchWords where
  isBlock := rfl
  owns := by
    rw [core.registry]
    rintro keyword (isTest | rfl | rfl)
    · cases isTest
      decide
    · decide
    · decide
  test_ne_last := by decide
  test_ne_ending := by decide
  last_ne_ending := by decide

end Setting.HasCoreTags

-- Behind its keyword a tag with the tokens of its form is read as that form.

section

variable {text : String} {tokens : List Token} {value : Tree}

theorem TagTokens.between (tag : TagTokens text) (passes : c.Passes (tag.around tokens) c') :
    ∃ m, c.Passes [tag.start, tag.word] m ∧ m.Passes (tokens ++ [tag.finish]) c' := by
  have passes : c.Passes ([tag.start, tag.word] ++ (tokens ++ [tag.finish])) c' := passes
  exact passes.between

theorem expressionTag_complete (tag : TagTokens text) (closed : c.Closed)
    (whole : ReadsWhole s.registries tokens value) (passes : c.Passes (tokens ++ [tag.finish]) c') :
    expressionTag s.registries c = .ok (value, c') :=
  (expressionTag_iff closed).mpr ⟨tokens, tag.finish, whole, tag.finish_kind, passes⟩

theorem print_complete (core : s.HasCoreTags) (tag : TagTokens "print") (closed : c.Closed)
    (whole : ReadsWhole s.registries tokens value) (passes : c.Passes (tag.around tokens) c') :
    Parse.tag s (budget + 2) c = .ok (.tag 0 [value] tag.start.line {}, c') := by
  obtain ⟨between, front, onward⟩ := tag.between passes
  have taking := expressionTag_complete tag (closed.behind front) whole onward
  refine tag_complete core closed tag.start_kind tag.word_kind front (show Core.tags[0]? = some Core.printTag from rfl)
    tag.word_value.symm (fitsGrammar_expression rfl taking) ?_
  rw [tagRest, show Core.printTag.form = .print from rfl]
  dsimp only
  rw [taking]
  rfl

theorem inclusion_complete (core : s.HasCoreTags) (tag : TagTokens "include") (closed : c.Closed)
    (whole : ReadsWhole s.registries tokens value) (passes : c.Passes (tag.around tokens) c') :
    Parse.tag s (budget + 2) c = .ok (.tag 5 [value] tag.start.line {}, c') := by
  obtain ⟨between, front, onward⟩ := tag.between passes
  have taking := expressionTag_complete tag (closed.behind front) whole onward
  refine tag_complete core closed tag.start_kind tag.word_kind front (show Core.tags[5]? = some Core.includeTag from rfl)
    tag.word_value.symm (fitsGrammar_expression rfl taking) ?_
  rw [tagRest, show Core.includeTag.form = .inclusion from rfl]
  dsimp only
  rw [taking]
  rfl

theorem assignment_complete (core : s.HasCoreTags) (tag : TagTokens "set") (closed : c.Closed)
    {name equals : Token} (isIdentifier : name.kind = .identifier) (isEquals : equals.isPunctuation "=" = true)
    (whole : ReadsWhole s.registries tokens value)
    (passes : c.Passes (tag.around (name :: equals :: tokens)) c') :
    Parse.tag s (budget + 2) c =
      .ok (.tag 4 [value] tag.start.line (Annotations.set {} "name" (.text name.value)), c') := by
  obtain ⟨between, front, onward⟩ := tag.between passes
  have inside := closed.behind front
  have fits : fitsGrammar Core.setTag between = true := by
    rw [fitsGrammar_set, Cursor.current_eq onward.tokens, Cursor.ahead_one onward.tokens]
    exact ⟨isIdentifier, isEquals⟩
  have onward : between.Passes ([name] ++ ([equals] ++ (tokens ++ [tag.finish]))) c' := onward
  obtain ⟨afterName, overName, onward⟩ := onward.between
  obtain ⟨afterSign, overSign, onward⟩ := onward.between
  have sign : TokenStream.fits equals .punctuation (some "=") = true := isEquals
  refine tag_complete core closed tag.start_kind tag.word_kind front (show Core.tags[4]? = some Core.setTag from rfl)
    tag.word_value.symm fits ?_
  rw [tagRest, show Core.setTag.form = .assignment from rfl]
  dsimp only
  rw [(name_iff inside).mpr ⟨.inl isIdentifier, overName⟩]
  dsimp only [ok_bind]
  rw [(expect_iff (inside.behind overName) (by decide)).mpr ⟨sign, overSign⟩]
  dsimp only [ok_bind]
  rw [expressionTag_complete tag ((inside.behind overName).behind overSign) whole onward]
  rfl

variable {body rest : List Token} {trees later : List Tree} {flag : Bool}

theorem conditional_complete (core : s.HasCoreTags) (bodies : ∀ smaller < budget, BodyComplete s smaller)
    (rests : BranchesComplete s budget) (tag : TagTokens "if") (closed : c.Closed)
    (whole : ReadsWhole s.registries tokens value) (isBody : Body s.registries body trees)
    (isRest : Branches s.registries ifWords rest later flag)
    (passes : c.Passes (tag.around tokens ++ (body ++ rest)) c')
    (enough : 8 * (body.length + rest.length) + 2 ≤ budget) :
    Parse.tag s (budget + 2) c =
      .ok (.tag 1 (value :: .block trees tag.start.line {} :: later) tag.start.line
        (Annotations.set {} "has_else" (.bool flag)), c') := by
  obtain ⟨afterHead, head, divided⟩ := passes.between
  obtain ⟨between, front, onward⟩ := tag.between head
  have taking := expressionTag_complete tag (closed.behind front) whole onward
  obtain ⟨afterBody, blocking, branching⟩ := divided_complete bodies rests (closed.behind head)
    core.divides_if isBody isRest divided enough tag.start.line
  refine tag_complete core closed tag.start_kind tag.word_kind front (show Core.tags[1]? = some Core.ifTag from rfl)
    tag.word_value.symm (fitsGrammar_expression rfl taking) ?_
  rw [tagRest, show Core.ifTag.form = .conditional from rfl]
  dsimp only
  rw [taking]
  dsimp only [ok_bind]
  rw [blocking]
  dsimp only [ok_bind]
  rw [branching]
  rfl

theorem loop_complete (core : s.HasCoreTags) (bodies : ∀ smaller < budget, BodyComplete s smaller)
    (rests : BranchesComplete s budget) (tag : TagTokens "for") (closed : c.Closed) {targets : LoopVariables}
    (isHead : LoopHead s.registries tokens targets value) (isBody : Body s.registries body trees)
    (isRest : Branches s.registries forWords rest later flag)
    (passes : c.Passes (tag.around tokens ++ (body ++ rest)) c')
    (enough : 8 * (body.length + rest.length) + 2 ≤ budget) :
    Parse.tag s (budget + 2) c =
      .ok (.tag 2 (value :: .block trees tag.start.line {} :: later) tag.start.line (targets.notes flag), c') := by
  obtain ⟨afterHead, head, divided⟩ := passes.between
  obtain ⟨between, front, onward⟩ := tag.between head
  obtain ⟨fits, taking⟩ := loopHeader_complete (closed.behind front) isHead tag.finish_kind onward
  obtain ⟨afterBody, blocking, branching⟩ := divided_complete bodies rests (closed.behind head)
    core.divides_for isBody isRest divided enough tag.start.line
  refine tag_complete core closed tag.start_kind tag.word_kind front (show Core.tags[2]? = some Core.forTag from rfl)
    tag.word_value.symm fits ?_
  rw [tagRest, show Core.forTag.form = .loop from rfl]
  dsimp only
  rw [taking]
  dsimp only [ok_bind]
  rw [blocking]
  dsimp only [ok_bind]
  rw [branching]
  rfl

theorem switch_complete (core : s.HasCoreTags) (rests : BranchesComplete s budget) (tag : TagTokens "switch")
    (closed : c.Closed) (whole : ReadsWhole s.registries tokens value) {blanks : List Token}
    (areBlank : ∀ blank ∈ blanks, IsBlankText blank) (isRest : Branches s.registries switchWords rest later flag)
    (passes : c.Passes (tag.around tokens ++ (blanks ++ rest)) c') (enough : 8 * rest.length ≤ budget) :
    Parse.tag s (budget + 2) c =
      .ok (.tag 3 (value :: later) tag.start.line (Annotations.set {} "has_default" (.bool flag)), c') := by
  obtain ⟨afterHead, head, divided⟩ := passes.between
  obtain ⟨afterBlanks, overBlanks, closing⟩ := divided.between
  obtain ⟨between, front, onward⟩ := tag.between head
  have taking := expressionTag_complete tag (closed.behind front) whole onward
  have ahead : AtBranch s (openBlock Core.switchTag tag.start.line afterBlanks) := by
    obtain ⟨start, word, rest, tokens, isStart, isKeyword, isWord⟩ := AtWord.branches isRest closing
    have first : (openBlock Core.switchTag tag.start.line afterBlanks).current = start := Cursor.current_eq tokens
    have second : (openBlock Core.switchTag tag.start.line afterBlanks).stream.ahead 1 = word :=
      Cursor.ahead_one tokens
    rw [AtBranch, first, second]
    exact ⟨isStart, isKeyword, core.divides_switch.owns word.value isWord⟩
  have skipping : firstBranch s tag.start.line (openBlock Core.switchTag tag.start.line afterHead) =
      .ok (openBlock Core.switchTag tag.start.line afterBlanks) :=
    (firstBranch_iff ((closed.behind head).enter _ _ _)).mpr ⟨blanks, areBlank, overBlanks.enter _ _ _, ahead⟩
  have branching := rests Core.switchTag switchWords afterBlanks tag.start.line later flag rest c'
    ((closed.behind head).behind overBlanks) core.divides_switch isRest closing enough
  refine tag_complete core closed tag.start_kind tag.word_kind front (show Core.tags[3]? = some Core.switchTag from rfl)
    tag.word_value.symm (fitsGrammar_expression rfl taking) ?_
  rw [tagRest, show Core.switchTag.form = .switch from rfl]
  dsimp only
  rw [taking]
  dsimp only [ok_bind]
  rw [skipping]
  dsimp only [ok_bind]
  rw [branching]
  rfl

theorem nested_complete (core : s.HasCoreTags) (bodies : ∀ smaller < budget, BodyComplete s smaller)
    (tag : TagTokens "template") (ending : TagTokens "endtemplate") (closed : c.Closed) {name : Token}
    (isName : name.kind = .identifier ∨ name.kind = .string) (isBody : Body s.registries body trees)
    (passes : c.Passes (tag.around [name] ++ (body ++ ending.around [])) c')
    (enough : 8 * body.length + 2 ≤ budget) :
    Parse.tag s (budget + 2) c =
      .ok (.tag 6 [.block trees tag.start.line {}] tag.start.line
        (Annotations.set {} "name" (.text name.value)), c') := by
  obtain ⟨afterHead, head, onward⟩ := passes.between
  obtain ⟨afterBody, overBody, closing⟩ := onward.between
  obtain ⟨between, front, onward⟩ := tag.between head
  have inside := closed.behind head
  have fits : fitsGrammar Core.templateTag between = true := by
    rw [fitsGrammar_template, Cursor.current_eq onward.tokens, Cursor.ahead_one onward.tokens]
    exact ⟨isName, tag.finish_kind⟩
  have onward : between.Passes ([name] ++ [tag.finish]) afterHead := onward
  obtain ⟨overName, finish⟩ := onward.split
  have finishing : tagEnd between.next = .ok (tag.finish, afterHead) :=
    (tagEnd_iff ((closed.behind front).behind overName)).mpr ⟨tag.finish_kind, finish⟩
  have closing : afterBody.Passes ([ending.start, ending.word] ++ [ending.finish]) c' := closing
  have ended : Ended s (openBlock Core.templateTag tag.start.line afterBody) := by
    have first : (openBlock Core.templateTag tag.start.line afterBody).current = ending.start :=
      Cursor.current_eq closing.tokens
    have second : (openBlock Core.templateTag tag.start.line afterBody).stream.ahead 1 = ending.word :=
      Cursor.ahead_one closing.tokens
    rw [Ended, first, second, ending.word_value]
    refine .inr ⟨ending.start_kind, ending.word_kind, ?_⟩
    show (true && s.registries.tags.ownsKeyword "template" "endtemplate") = true
    rw [core.registry]
    decide
  have blocking : block s budget tag.start.line (openBlock Core.templateTag tag.start.line afterHead) =
      .ok (.block trees tag.start.line {}, openBlock Core.templateTag tag.start.line afterBody) :=
    block_complete bodies (inside.enter _ _ _) isBody (overBody.enter _ _ _) ended enough
  obtain ⟨afterCloser, word, last⟩ := closing.between
  have lastly : tagEnd (openBlock Core.templateTag tag.start.line afterCloser) =
      .ok (ending.finish, openBlock Core.templateTag tag.start.line c') :=
    (tagEnd_iff (((inside.behind overBody).behind word).enter _ _ _)).mpr ⟨ending.finish_kind, last.enter _ _ _⟩
  refine tag_complete core closed tag.start_kind tag.word_kind front (show Core.tags[6]? = some Core.templateTag from rfl)
    tag.word_value.symm fits ?_
  rw [tagRest, show Core.templateTag.form = .nested from rfl]
  dsimp only
  rw [finishing]
  dsimp only [ok_bind]
  rw [blocking]
  dsimp only [ok_bind]
  rw [branchKeyword_complete ending (inside.behind overBody) word]
  dsimp only [ok_bind]
  rw [lastly]
  dsimp only [ok_bind]
  rw [closeBlock, openBlock, Cursor.leave_enter, overName.uncons.1]
  rfl

end

theorem body_tag {text : String} (tag : TagTokens text) {rest : List Token}
    (tokens : c.tokens = tag.start :: tag.word :: rest)
    (starts : s.registries.tags.isBlockKeyword text = false)
    (tagging : Parse.tag s budget c = .ok (tree, c')) :
    body s (budget + 1) c = body s budget c' >>= fun later => .ok (tree :: later.1, later.2) := by
  have starts : s.registries.tags.isBlockKeyword tag.word.value = false := by rw [tag.word_value, starts]
  rw [body, Cursor.current_eq tokens, Cursor.ahead_one tokens, tag.start_kind]
  dsimp only
  rw [if_neg (fun both => Bool.false_ne_true (starts.symm.trans both.2)), tagging]
  rfl

theorem body_piece (core : s.HasCoreTags) (bodies : ∀ smaller < budget, BodyComplete s smaller)
    (rests : ∀ smaller < budget, BranchesComplete s smaller) (closed : c.Closed) {piece : List Token}
    (isPiece : Piece s.registries piece tree) (passes : c.Passes piece c') (enough : 8 * piece.length ≤ budget) :
    body s (budget + 1) c = body s budget c' >>= fun later => .ok (tree :: later.1, later.2) := by
  have starts : ∀ text ∈ ["print", "if", "for", "switch", "set", "include", "template"],
      s.registries.tags.isBlockKeyword text = false := by
    rw [core.registry]
    decide
  cases isPiece with
  | text isText =>
      obtain ⟨rfl, nothing⟩ := passes.uncons
      rw [body, isText]
      dsimp only
      rw [textNode_eq core, nothing.eq_of_nil]
      rfl
  | output isStart whole isEnd =>
      rename_i start finish tokens value
      obtain ⟨rfl, -⟩ := passes.uncons
      have writing := (output_iff (core.printTag _) closed isStart).mpr ⟨tokens, finish, value, whole, isEnd, passes, rfl⟩
      rw [body, isStart]
      dsimp only
      rw [writing]
      rfl
  | print tag whole =>
      rw [tag.length_around] at enough
      obtain ⟨budget, rfl⟩ : ∃ more, budget = more + 2 := ⟨budget - 2, by omega⟩
      exact body_tag tag passes.tokens (starts _ (by decide)) (print_complete core tag closed whole passes)
  | inclusion tag whole =>
      rw [tag.length_around] at enough
      obtain ⟨budget, rfl⟩ : ∃ more, budget = more + 2 := ⟨budget - 2, by omega⟩
      exact body_tag tag passes.tokens (starts _ (by decide)) (inclusion_complete core tag closed whole passes)
  | assignment tag isIdentifier isEquals whole =>
      rw [tag.length_around] at enough
      obtain ⟨budget, rfl⟩ : ∃ more, budget = more + 2 := ⟨budget - 2, by omega⟩
      exact body_tag tag passes.tokens (starts _ (by decide))
        (assignment_complete core tag closed isIdentifier isEquals whole passes)
  | conditional tag whole isBody isRest =>
      simp only [List.length_append, tag.length_around] at enough
      obtain ⟨budget, rfl⟩ : ∃ more, budget = more + 2 := ⟨budget - 2, by omega⟩
      rw [List.append_assoc] at passes
      exact body_tag tag passes.tokens (starts _ (by decide)) (conditional_complete core
        (fun smaller below => bodies smaller (by omega)) (rests budget (by omega)) tag closed whole isBody isRest
        passes (by omega))
  | loop tag isHead isBody isRest =>
      simp only [List.length_append, tag.length_around] at enough
      obtain ⟨budget, rfl⟩ : ∃ more, budget = more + 2 := ⟨budget - 2, by omega⟩
      rw [List.append_assoc] at passes
      exact body_tag tag passes.tokens (starts _ (by decide)) (loop_complete core
        (fun smaller below => bodies smaller (by omega)) (rests budget (by omega)) tag closed isHead isBody isRest
        passes (by omega))
  | switch tag whole areBlank isRest =>
      simp only [List.length_append, tag.length_around] at enough
      obtain ⟨budget, rfl⟩ : ∃ more, budget = more + 2 := ⟨budget - 2, by omega⟩
      rw [List.append_assoc] at passes
      exact body_tag tag passes.tokens (starts _ (by decide)) (switch_complete core (rests budget (by omega)) tag
        closed whole areBlank isRest passes (by omega))
  | nested tag ending isName isBody =>
      simp only [List.length_append, tag.length_around, ending.length_around] at enough
      obtain ⟨budget, rfl⟩ : ∃ more, budget = more + 2 := ⟨budget - 2, by omega⟩
      rw [List.append_assoc] at passes
      exact body_tag tag passes.tokens (starts _ (by decide)) (nested_complete core
        (fun smaller below => bodies smaller (by omega)) tag ending closed isName isBody passes (by omega))

theorem Piece.length_pos {r : Registries} {piece : List Token} (isPiece : Piece r piece tree) :
    0 < piece.length := by
  cases isPiece <;> simp [TagTokens.around]

theorem body_complete (core : s.HasCoreTags) (bodies : ∀ smaller < budget, BodyComplete s smaller)
    (rests : ∀ smaller < budget, BranchesComplete s smaller) : BodyComplete s budget := by
  intro c trees used c' closed derived passes ended enough
  obtain ⟨budget, rfl⟩ : ∃ more, budget = more + 1 := ⟨budget - 1, by omega⟩
  cases derived with
  | nil =>
      obtain rfl := passes.eq_of_nil
      rw [body]
      rcases ended with ⟨isEnd, outside⟩ | ⟨isStart, isKeyword, owned⟩
      · rw [isEnd, outside]
      · rw [isStart]
        dsimp only
        rw [if_pos ⟨isKeyword, isBlockKeyword_of_topOwns owned⟩, if_pos owned]
  | cons isPiece isBody =>
      rw [List.length_append] at enough
      obtain ⟨between, front, onward⟩ := passes.between
      have occupied := isPiece.length_pos
      rw [body_piece core (fun smaller below => bodies smaller (by omega))
        (fun smaller below => rests smaller (by omega)) closed isPiece front (by omega),
        bodies budget (Nat.lt_succ_self _) between _ _ c' (closed.behind front) isBody onward ended (by omega)]
      rfl

theorem readings_complete (core : s.HasCoreTags) (budget : Nat) :
    BodyComplete s budget ∧ BranchesComplete s budget := by
  induction budget using Nat.strong_induction_on with
  | _ budget ih =>
      have bodies : ∀ smaller < budget, BodyComplete s smaller := fun smaller below => (ih smaller below).1
      have rests : ∀ smaller < budget, BranchesComplete s smaller := fun smaller below => (ih smaller below).2
      exact ⟨body_complete core bodies rests, branches_complete bodies rests⟩

theorem ended_outside : Ended s (c.enter .text "template" 1) ↔ c.current.kind = .eof := by
  constructor
  · rintro (⟨atEnd, -⟩ | ⟨-, -, owned⟩)
    · exact atEnd
    · cases owned
  · intro atEnd
    exact .inl ⟨atEnd, rfl⟩

/-- The first end among tokens stands where the other tokens stop. -/
theorem front_of_passes {front used : List Token} {last : Token} (tokens : c.tokens = front ++ [last])
    (inside : ∀ token ∈ front, token.kind ≠ .eof) (passes : c.Passes used c') (atEnd : c'.current.kind = .eof) :
    used = front := by
  have parts : front ++ [last] = used ++ c'.current :: c'.stream.later := by
    rw [← tokens, passes.tokens, c'.tokens_eq]
  rcases append_cons_cases parts with ⟨gap, -, behind⟩ | ⟨same, -, -⟩ | ⟨gap, rfl, -⟩
  · cases gap <;> cases behind
  · exact same
  · exact absurd atEnd (inside c'.current (by simp))

/-- With the core tags, what the grammar derives in front of the end is read, whatever tag stands in for others. -/
theorem template_of_derived (core : s.HasCoreTags) {front : List Token} {last : Token} {trees : List Tree}
    (ending : last.kind = .eof) (derived : Body s.registries front trees) :
    template s (front ++ [last]) = .ok (.root trees 1 {}) := by
  let start : Cursor := { stream := .ofTokens (front ++ [last]) }
  have tokens : start.tokens = front ++ [last] := tokens_ofTokens ending
  have closed : start.Closed := closed_ofTokens ending
  have passes : start.Passes front (start.skip front.length) := .of_tokens tokens (List.cons_ne_nil _ _)
  have atEnd : (start.skip front.length).current.kind = .eof := by
    rw [Cursor.current_eq (Cursor.tokens_skip tokens (List.cons_ne_nil _ _)), ending]
  have enough : 8 * front.length + 1 ≤ start.budget := by
    have counted := congrArg List.length tokens
    rw [Cursor.tokens_eq, List.length_cons, List.length_append, List.length_singleton] at counted
    rw [Cursor.budget]
    omega
  have taking := (readings_complete core start.budget).1 _ trees front _ (closed.enter .text "template" 1) derived
    (passes.enter .text "template" 1) (ended_outside.mpr atEnd) enough
  show body s start.budget (start.enter .text "template" 1) >>= _ = _
  rw [taking]
  dsimp only [ok_bind]
  rw [Cursor.leave_enter]
  rfl

/-- With the core tags and no tag that stands in for others, tokens are read as a template exactly when the
grammar derives those in front of the end, and the tree is the one that is derived. -/
theorem template_iff_derived (core : CoreSetting s) {front : List Token} {last : Token}
    (ending : last.kind = .eof) (inside : ∀ token ∈ front, token.kind ≠ .eof) :
    template s (front ++ [last]) = .ok tree ↔
      ∃ trees, Body s.registries front trees ∧ tree = .root trees 1 {} := by
  let start : Cursor := { stream := .ofTokens (front ++ [last]) }
  have tokens : start.tokens = front ++ [last] := tokens_ofTokens ending
  have closed : start.Closed := closed_ofTokens ending
  have closed := closed.enter .text "template" 1
  constructor
  · intro reading
    obtain ⟨⟨trees, behind⟩, taking, rest⟩ := bind_eq_ok.mp reading
    obtain ⟨last, leaving, result⟩ := bind_eq_ok.mp rest
    cases result
    obtain ⟨used, entered, derived, ended⟩ := (readings_sound core start.budget).1 _ trees behind closed taking
    obtain ⟨inner, rfl, passes⟩ := entered.of_enter
    obtain rfl := front_of_passes tokens inside passes (ended_outside.mp ended)
    exact ⟨trees, derived, rfl⟩
  · rintro ⟨trees, derived, rfl⟩
    exact template_of_derived core.hasCoreTags ending derived

def tagOf (keyword : String) : TagTokens keyword where
  start := ⟨.tagStart, "\x7b%", 1⟩
  word := ⟨.keyword, keyword, 1⟩
  finish := ⟨.tagEnd, "%\x7d", 1⟩
  start_kind := rfl
  word_kind := rfl
  word_value := rfl
  finish_kind := rfl

/-- A loop over `xs` with an `if` in it that has a `switch` as its second branch, and an `else` of its own. -/
def branchingTokens : List Token :=
  (tagOf "for").around [⟨.identifier, "x", 1⟩, ⟨.operator, "in", 1⟩, ⟨.identifier, "xs", 1⟩] ++
    ((tagOf "if").around [⟨.identifier, "x", 1⟩] ++ [⟨.text, "a", 1⟩] ++
      ((tagOf "else").around [] ++
        ((tagOf "switch").around [⟨.identifier, "x", 1⟩] ++ [⟨.text, " ", 1⟩] ++
          ((tagOf "case").around [⟨.literal, "7", 1⟩] ++ [⟨.text, "b", 1⟩] ++ (tagOf "endswitch").around [])) ++
        (tagOf "endif").around [])) ++
    ((tagOf "else").around [] ++ [⟨.text, "c", 1⟩] ++ (tagOf "endfor").around [])

def textTree (value : String) : Tree :=
  .tag 0 [.data (.string value) 1 {}] 1 (Annotations.set {} "text" (.bool true))

def branchingTree : Tree :=
  .tag 2
    [.variable "xs" 1 {},
      .block [.tag 1
        [.variable "x" 1 {}, .block [textTree "a"] 1 {},
          .block [.tag 3 [.variable "x" 1 {}, .data (.int 7) 1 {}, .block [textTree "b"] 1 {}] 1
            (Annotations.set {} "has_default" (.bool false))] 1 {}]
        1 (Annotations.set {} "has_else" (.bool true))] 1 {},
      .block [textTree "c"] 1 {}]
    1 (LoopVariables.notes ⟨none, "x"⟩ true)

theorem branchingTokens_derived (r : Registries) : Body r branchingTokens [branchingTree] := by
  have x : ReadsWhole r [⟨.identifier, "x", 1⟩] (.variable "x" 1 {}) := ⟨_, rfl, rfl⟩
  have xs : ReadsWhole r [⟨.identifier, "xs", 1⟩] (.variable "xs" 1 {}) := ⟨_, rfl, rfl⟩
  have seven : ReadsWhole r [⟨.literal, "7", 1⟩] (.data (.int 7) 1 {}) := ⟨_, rfl, rfl⟩
  have only : ∀ {tokens tree}, Piece r tokens tree → Body r tokens [tree] := by
    intro tokens tree piece
    rw [← List.append_nil tokens]
    exact .cons piece .nil
  have text : ∀ value, Body r [⟨.text, value, 1⟩] [textTree value] := fun value => only (.text rfl)
  have blank : ∀ token ∈ [(⟨.text, " ", 1⟩ : Token)], IsBlankText token := by
    intro token member
    rw [List.mem_singleton.mp member]
    exact ⟨rfl, by decide⟩
  have cases : Branches r switchWords _ _ false :=
    .test (tagOf "case") rfl seven (text "b") (.ending (tagOf switchWords.ending))
  have choices : Branches r ifWords _ _ true :=
    .last (tagOf ifWords.last) (tagOf ifWords.ending) (only (.switch (tagOf "switch") x blank cases))
  have otherwise : Branches r forWords _ _ true :=
    .last (tagOf forWords.last) (tagOf forWords.ending) (text "c")
  exact only (.loop (tagOf "for") (.value rfl rfl xs) (only (.conditional (tagOf "if") x (text "a") choices))
    otherwise)

theorem branchingTokens_read :
    ∃ r, Registries.build [Core.extension] = .ok r ∧ (∀ token ∈ branchingTokens, token.kind ≠ .eof) ∧
      template ⟨r, none⟩ (branchingTokens ++ [.eof 1]) = .ok (.root [branchingTree] 1 {}) := by
  have built : Registries.build [Core.extension] = .ok Core.registries := Registries.build_core []
  have inside : ∀ token ∈ branchingTokens, token.kind ≠ .eof := by decide
  exact ⟨Core.registries, built, inside, (template_iff_derived (.of_build built) rfl inside).mpr
    ⟨_, branchingTokens_derived _, rfl⟩⟩

end Templating.Parse
