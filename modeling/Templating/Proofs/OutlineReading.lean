import Templating.Proofs.ExpressionTokens
import Templating.Proofs.OutputOutline
import Templating.Proofs.TemplateReading

/-! # Outlines of templates that were read

The parts that a walk over the tokens of a template finds are those of the tree that is read from them, one to
one and in order: texts with their values, and expressions with the tokens that are read as them. The
induction is on the budget of the reading, for bodies and branches at once.
-/

namespace Templating

/-- The tokens of a part are read as the tree of a part. -/
inductive Part.Reads (r : Registries) : Part (List Token) → Part Tree → Prop
  | text (value : String) : Part.Reads r (.text value) (.text value)
  | value {tokens : List Token} {tree : Tree} : Parse.ReadsWhole r tokens tree → Part.Reads r (.value tokens) (.value tree)
  | inclusion {tokens : List Token} {tree : Tree} :
      Parse.ReadsWhole r tokens tree → Part.Reads r (.inclusion tokens) (.inclusion tree)

namespace Parse

variable {s : Setting} {c c' between : Cursor} {tree : Tree} {trees later : List Tree} {used more : List Token}
  {budget id line : Nat} {awaits : Bool}

/-- A walk over the tokens finds the parts of the trees. -/
def Outlined (s : Setting) (awaits : Bool) (used : List Token) (trees : List Tree) : Prop :=
  ∃ found, Outliner.Adds s.fallbackTag awaits used found ∧
    found.Matches (Part.Reads s.registries) (Tree.outlineAll s.registries trees)

namespace Outlined

theorem nil : Outlined s false [] [] :=
  ⟨{}, fun outline around => by simp, .empty⟩

theorem append (front : Outlined s awaits used trees) (back : Outlined s false more later) :
    Outlined s awaits (used ++ more) (trees ++ later) := by
  obtain ⟨found, walk, same⟩ := front
  obtain ⟨rest, onward, sameRest⟩ := back
  refine ⟨found ++ rest, fun outline around => ?_, ?_⟩
  · rw [List.foldl_append, walk, onward, Outline.append_assoc]
  · rw [Tree.outlineAll_append]
    exact same.append sameRest

theorem block (inner : Outlined s awaits used trees) (line : Nat) (notes : Annotations) :
    Outlined s awaits used [.block trees line notes] := by
  simpa [Outlined, Tree.outlineAll, Tree.outline] using inner

theorem cons_expression {tokens : List Token} (owns : s.registries.operators.OwnsAliases)
    (whole : ReadsWhole s.registries tokens tree) (inner : Outlined s awaits used trees) :
    Outlined s awaits used (tree :: trees) := by
  obtain ⟨last, reading, -⟩ := whole
  have none := (isExpression_of_expression owns reading).outline
  simpa [Outlined, Tree.outlineAll, none] using inner

theorem single {found : Outline (Part (List Token))} (walk : Outliner.Adds s.fallbackTag awaits used found)
    (same : found.Matches (Part.Reads s.registries) (tree.outline s.registries)) : Outlined s awaits used [tree] :=
  ⟨found, walk, by simpa [Tree.outlineAll] using same⟩

end Outlined

/-- A body that was read with a budget has the parts that its tokens show. -/
def BodyOutlined (s : Setting) (budget : Nat) : Prop :=
  ∀ c trees c', c.Closed → body s budget c = .ok (trees, c') →
    ∃ used, c.Passes used c' ∧ Outlined s false used trees ∧ Ended s c'

/-- No keyword of these branches matters to an outline. -/
def BranchWords.Inert (words : BranchWords) : Prop :=
  ∀ keyword ∈ words.test.toList ++ [words.last, words.ending], keyword ∉ Outliner.acting

instance (words : BranchWords) : Decidable words.Inert :=
  inferInstanceAs (Decidable (∀ keyword ∈ words.test.toList ++ [words.last, words.ending], keyword ∉ Outliner.acting))

/-- So have branches, whether or not blanks may stand in front of them. -/
def BranchesOutlined (s : Setting) (budget : Nat) : Prop :=
  ∀ definition words c line hasLast later flag c', words.Inert → c.Closed →
    branches s budget definition words hasLast (openBlock definition line c) = .ok ((later, flag), c') →
    ∃ used, c.Passes used c' ∧ ∀ awaits, Outlined s awaits used later

section

variable {definition : TagDefinition} {words : BranchWords} {start word finish : Token} {content : List Token}

theorem adds_inert {fallback : Option String} (isStart : start.kind = .tagStart) (isKeyword : word.kind = .keyword)
    (isEnd : finish.kind = .tagEnd) (inner : ∀ token ∈ content, token.kind ∈ Source.innerKinds)
    (inert : word.value ∉ Outliner.acting) : Outliner.Adds fallback awaits (start :: word :: content ++ [finish]) {} := by
  intro outline around
  have inner : ∀ token ∈ word :: content, token.kind ∈ Source.innerKinds := by
    refine List.forall_mem_cons.mpr ⟨?_, inner⟩
    rw [isKeyword]
    decide
  have parts : tagParts fallback (word :: content) = (some word.value, content) := by simp [tagParts, isKeyword]
  rw [Outliner.foldl_tag isStart isEnd inner parts rfl, Outliner.act_of_not_acting inert]
  simp

theorem block_outlined (bodies : ∀ smaller < budget, BodyOutlined s smaller) (closed : c.Closed) {open_ : Nat}
    (reading : block s budget line (openBlock definition open_ c) = .ok (tree, between)) :
    ∃ used behind, between = openBlock definition open_ behind ∧ c.Passes used behind ∧
      Outlined s false used [tree] ∧ Ended s between := by
  cases budget with
  | zero =>
      rw [block] at reading
      cases reading
  | succ budget =>
      rw [block] at reading
      obtain ⟨⟨trees, last⟩, taking, ⟨⟩⟩ := bind_eq_ok.mp reading
      obtain ⟨used, entered, outlined, ended⟩ :=
        bodies budget (Nat.lt_succ_self _) _ trees _ (closed.enter _ _ _) taking
      obtain ⟨behind, rfl, passes⟩ := entered.of_enter
      exact ⟨used, behind, rfl, passes, outlined.block _ _, ended⟩

theorem divided_outlined {first : Tree} {open_ : Nat} {hasLast flag : Bool} (inert : words.Inert)
    (bodies : ∀ smaller < budget, BodyOutlined s smaller) (rests : BranchesOutlined s budget) (closed : c.Closed)
    (blocking : block s budget line (openBlock definition open_ c) = .ok (first, between))
    (branching : branches s budget definition words hasLast between = .ok ((later, flag), c')) :
    ∃ used, c.Passes used c' ∧ Outlined s false used (first :: later) := by
  obtain ⟨inner, behind, rfl, overBody, outlined, -⟩ := block_outlined bodies closed blocking
  obtain ⟨more, overRest, outlinedRest⟩ :=
    rests definition words behind open_ hasLast later flag c' inert (closed.behind overBody) branching
  exact ⟨inner ++ more, overBody.trans overRest, outlined.append (outlinedRest false)⟩

theorem branches_outlined (owns : s.registries.operators.OwnsAliases) (bodies : ∀ smaller < budget, BodyOutlined s smaller)
    (rests : ∀ smaller < budget, BranchesOutlined s smaller) : BranchesOutlined s budget := by
  intro definition words c line hasLast later flag c' inert closed reading
  cases budget with
  | zero =>
      rw [branches] at reading
      cases reading
  | succ budget =>
      have smaller : ∀ less < budget, BodyOutlined s less := fun less below => bodies less (by omega)
      rw [branches] at reading
      obtain ⟨⟨word, between⟩, keyword, rest⟩ := bind_eq_ok.mp reading
      obtain ⟨start, isStart, isKeyword, entered⟩ := (branchKeyword_iff (closed.enter _ _ _)).mp keyword
      obtain ⟨behind, rfl, passes⟩ := entered.of_enter
      have inside := closed.behind passes
      dsimp only at rest
      split at rest
      · rename_i isTest
        obtain ⟨⟨value, afterValue⟩, taking, rest⟩ := bind_eq_ok.mp rest
        obtain ⟨⟨body, afterBody⟩, blocking, rest⟩ := bind_eq_ok.mp rest
        obtain ⟨⟨⟨found, hasLater⟩, last⟩, onward, ⟨⟩⟩ := bind_eq_ok.mp rest
        obtain ⟨tokens, finish, whole, isEnd, valued⟩ := (expressionTag_iff (inside.enter _ _ _)).mp taking
        obtain ⟨middle, rfl, overValue⟩ := valued.of_enter
        obtain ⟨more, overRest, outlined⟩ :=
          divided_outlined inert smaller (rests budget (Nat.lt_succ_self _)) (inside.behind overValue) blocking onward
        have notActing : word.value ∉ Outliner.acting := inert word.value (by simp [isTest.1])
        refine ⟨_, passes.trans (overValue.trans overRest), fun awaits => .cons_expression owns whole ?_⟩
        have head : Outlined s awaits (start :: word :: tokens ++ [finish]) [] :=
          ⟨{}, adds_inert isStart isKeyword isEnd whole.kinds notActing, .empty⟩
        simpa using head.append outlined
      split at rest
      · rename_i isLast
        obtain ⟨⟨finish, afterWord⟩, ending, rest⟩ := bind_eq_ok.mp rest
        obtain ⟨⟨body, afterBody⟩, blocking, rest⟩ := bind_eq_ok.mp rest
        obtain ⟨⟨⟨found, hasLater⟩, last⟩, onward, ⟨⟩⟩ := bind_eq_ok.mp rest
        obtain ⟨isEnd, ended⟩ := (tagEnd_iff (inside.enter _ _ _)).mp ending
        obtain ⟨middle, rfl, overEnd⟩ := ended.of_enter
        obtain ⟨more, overRest, outlined⟩ :=
          divided_outlined inert smaller (rests budget (Nat.lt_succ_self _)) (inside.behind overEnd) blocking onward
        have notActing : word.value ∉ Outliner.acting := inert word.value (by simp [isLast.1])
        refine ⟨_, passes.trans (overEnd.trans overRest), fun awaits => ?_⟩
        have head : Outlined s awaits (start :: word :: [] ++ [finish]) [] :=
          ⟨{}, adds_inert isStart isKeyword isEnd (List.forall_mem_nil _) notActing, .empty⟩
        simpa using head.append outlined
      split at rest
      · rename_i isEnding
        obtain ⟨⟨finish, afterWord⟩, ending, rest⟩ := bind_eq_ok.mp rest
        obtain ⟨last, closing, ⟨⟩⟩ := bind_eq_ok.mp rest
        obtain ⟨tag, along⟩ := closeBlock_sound closed isEnding.symm keyword ending closing
        refine ⟨_, along, fun awaits => ⟨{}, ?_, .empty⟩⟩
        exact adds_inert tag.start_kind tag.word_kind tag.finish_kind (List.forall_mem_nil _)
          (by rw [tag.word_value]; exact inert words.ending (by simp))
      · cases rest

end

/-- Behind its keyword a tag holds some tokens up to its end; what follows is walked over from where the
keyword leads, and finds the parts of the tag. -/
def RestOutlined (s : Setting) (keyword : String) (c : Cursor) (tree : Tree) (c' : Cursor) : Prop :=
  ∃ content finish more, (∀ token ∈ content, token.kind ∈ Source.innerKinds) ∧ finish.kind = .tagEnd ∧
    c.Passes (content ++ finish :: more) c' ∧
    ∃ found, (∀ outline around, more.foldl (Outliner.step s.fallbackTag)
        (Outliner.act { outline := outline, around := around } (some keyword) content) =
          { outline := outline ++ found, around := around }) ∧
      found.Matches (Part.Reads s.registries) (tree.outline s.registries)

section

variable {definition : TagDefinition} {keyword : String} {finish : Token} {content : List Token}

theorem restOutlined_inert (inert : keyword ∉ Outliner.acting)
    (inner : ∀ token ∈ content, token.kind ∈ Source.innerKinds) (isEnd : finish.kind = .tagEnd)
    (passes : c.Passes (content ++ finish :: more) c') (outlined : Outlined s false more trees)
    (same : tree.outline s.registries = Tree.outlineAll s.registries trees) : RestOutlined s keyword c tree c' := by
  obtain ⟨found, walk, related⟩ := outlined
  refine ⟨content, finish, more, inner, isEnd, passes, found, fun outline around => ?_, same ▸ related⟩
  rw [Outliner.act_of_not_acting inert]
  exact walk outline around

theorem print_outlined (numbered : s.registries.tags.get? id = some Core.printTag) (closed : c.Closed)
    (reading : tagRest s (budget + 1) id Core.printTag line c = .ok (tree, c')) : RestOutlined s "print" c tree c' := by
  rw [tagRest] at reading
  obtain ⟨⟨value, last⟩, taking, ⟨⟩⟩ := bind_eq_ok.mp reading
  obtain ⟨tokens, finish, whole, isEnd, passes⟩ := (expressionTag_iff closed).mp taking
  refine ⟨tokens, finish, [], whole.kinds, isEnd, passes, .single (.value tokens), fun outline around => rfl, ?_⟩
  rw [Tree.outline_print numbered]
  exact .single (.value whole)

theorem inclusion_outlined (numbered : s.registries.tags.get? id = some Core.includeTag) (closed : c.Closed)
    (reading : tagRest s (budget + 1) id Core.includeTag line c = .ok (tree, c')) : RestOutlined s "include" c tree c' := by
  rw [tagRest] at reading
  obtain ⟨⟨value, last⟩, taking, ⟨⟩⟩ := bind_eq_ok.mp reading
  obtain ⟨tokens, finish, whole, isEnd, passes⟩ := (expressionTag_iff closed).mp taking
  refine ⟨tokens, finish, [], whole.kinds, isEnd, passes, .single (.inclusion tokens), fun outline around => rfl, ?_⟩
  rw [Tree.outline_inclusion numbered]
  exact .single (.inclusion whole)

theorem kind_of_isVariable {token : Token} (isVariable : IsVariable token) : token.kind ∈ Source.innerKinds := by
  rcases isVariable with kind | ⟨kind, -⟩ <;> simp [kind, Source.innerKinds]

theorem kind_of_isPunctuation {token : Token} {text : String} (isText : token.isPunctuation text = true) :
    token.kind ∈ Source.innerKinds := by
  simp [(Token.isPunctuation_iff.mp isText).1, Source.innerKinds]

theorem kind_of_isWord {token : Token} {text : String} (isWord : token.isWord text = true) :
    token.kind ∈ Source.innerKinds := by
  rw [Token.isWord, Bool.and_eq_true] at isWord
  simp only [Bool.or_eq_true, beq_iff_eq] at isWord
  rcases isWord.1 with (kind | kind) | kind <;> simp [kind, Source.innerKinds]

theorem assignment_outlined (owns : s.registries.operators.OwnsAliases)
    (numbered : s.registries.tags.get? id = some Core.setTag) (closed : c.Closed)
    (reading : tagRest s (budget + 1) id Core.setTag line c = .ok (tree, c')) : RestOutlined s "set" c tree c' := by
  rw [tagRest] at reading
  obtain ⟨⟨target, afterName⟩, naming, rest⟩ := bind_eq_ok.mp reading
  obtain ⟨⟨equals, afterSign⟩, sign, rest⟩ := bind_eq_ok.mp rest
  obtain ⟨⟨value, last⟩, taking, ⟨⟩⟩ := bind_eq_ok.mp rest
  obtain ⟨isVariable, overName⟩ := (name_iff closed).mp naming
  obtain ⟨isEquals, overSign⟩ := (expect_iff (closed.behind overName) (by decide)).mp sign
  obtain ⟨tokens, finish, whole, isEnd, onward⟩ :=
    (expressionTag_iff ((closed.behind overName).behind overSign)).mp taking
  have isEquals : equals.isPunctuation "=" = true := isEquals
  have inner : ∀ token ∈ target :: equals :: tokens, token.kind ∈ Source.innerKinds := by
    simp only [List.forall_mem_cons]
    exact ⟨kind_of_isVariable isVariable, kind_of_isPunctuation isEquals, whole.kinds⟩
  refine restOutlined_inert (by decide) inner isEnd (overName.trans (overSign.trans onward)) ?_
    (Tree.outline_tag numbered (by simp))
  exact .cons_expression owns whole .nil

theorem conditional_outlined (owns : s.registries.operators.OwnsAliases)
    (bodies : ∀ smaller < budget, BodyOutlined s smaller) (rests : BranchesOutlined s budget)
    (numbered : s.registries.tags.get? id = some Core.ifTag) (closed : c.Closed)
    (reading : tagRest s (budget + 1) id Core.ifTag line c = .ok (tree, c')) : RestOutlined s "if" c tree c' := by
  rw [tagRest] at reading
  obtain ⟨⟨condition, afterHead⟩, taking, rest⟩ := bind_eq_ok.mp reading
  obtain ⟨⟨first, afterBody⟩, blocking, rest⟩ := bind_eq_ok.mp rest
  obtain ⟨⟨⟨later, hasElse⟩, last⟩, branching, ⟨⟩⟩ := bind_eq_ok.mp rest
  obtain ⟨tokens, finish, whole, isEnd, passes⟩ := (expressionTag_iff closed).mp taking
  obtain ⟨more, onward, outlined⟩ :=
    divided_outlined (by decide) bodies rests (closed.behind passes) blocking branching
  refine restOutlined_inert (by decide) whole.kinds isEnd ?_ (.cons_expression owns whole outlined)
    (Tree.outline_tag numbered (by simp))
  simpa using passes.trans onward

theorem LoopHead.kinds {r : Registries} {head : List Token} {targets : LoopVariables} {iterable : Tree}
    (isHead : LoopHead r head targets iterable) : ∀ token ∈ head, token.kind ∈ Source.innerKinds := by
  cases isHead with
  | value isName isWord whole =>
      simp only [List.forall_mem_cons]
      exact ⟨kind_of_isVariable (.inl isName), kind_of_isWord isWord, whole.kinds⟩
  | pair isKey comma isName isWord whole =>
      simp only [List.forall_mem_cons]
      exact ⟨kind_of_isVariable (.inl isKey), kind_of_isPunctuation comma, kind_of_isVariable (.inl isName),
        kind_of_isWord isWord, whole.kinds⟩
  | bracketedValue opening isName isWord whole closing =>
      simp only [List.cons_append, List.forall_mem_cons, List.forall_mem_append]
      exact ⟨kind_of_isPunctuation opening, kind_of_isVariable (.inl isName), kind_of_isWord isWord, whole.kinds,
        kind_of_isPunctuation closing, nofun⟩
  | bracketedPair opening isKey comma isName isWord whole closing =>
      simp only [List.cons_append, List.forall_mem_cons, List.forall_mem_append]
      exact ⟨kind_of_isPunctuation opening, kind_of_isVariable (.inl isKey), kind_of_isPunctuation comma,
        kind_of_isVariable isName, kind_of_isWord isWord, whole.kinds, kind_of_isPunctuation closing, nofun⟩

theorem LoopHead.whole {r : Registries} {head : List Token} {targets : LoopVariables} {iterable : Tree}
    (isHead : LoopHead r head targets iterable) : ∃ tokens, ReadsWhole r tokens iterable := by
  cases isHead with
  | value _ _ whole | pair _ _ _ _ whole | bracketedValue _ _ _ whole _ | bracketedPair _ _ _ _ _ whole _ =>
      exact ⟨_, whole⟩

theorem loop_outlined (owns : s.registries.operators.OwnsAliases)
    (bodies : ∀ smaller < budget, BodyOutlined s smaller) (rests : BranchesOutlined s budget)
    (numbered : s.registries.tags.get? id = some Core.forTag) (fits : fitsGrammar Core.forTag c = true) (closed : c.Closed)
    (reading : tagRest s (budget + 1) id Core.forTag line c = .ok (tree, c')) : RestOutlined s "for" c tree c' := by
  rw [tagRest] at reading
  obtain ⟨⟨⟨targets, iterable⟩, afterHead⟩, taking, rest⟩ := bind_eq_ok.mp reading
  obtain ⟨⟨first, afterBody⟩, blocking, rest⟩ := bind_eq_ok.mp rest
  obtain ⟨⟨⟨later, hasElse⟩, last⟩, branching, ⟨⟩⟩ := bind_eq_ok.mp rest
  obtain ⟨head, finish, isHead, isEnd, passes⟩ := loopHeader_sound closed fits taking
  obtain ⟨more, onward, outlined⟩ :=
    divided_outlined (by decide) bodies rests (closed.behind passes) blocking branching
  obtain ⟨tokens, whole⟩ := isHead.whole
  refine restOutlined_inert (by decide) isHead.kinds isEnd ?_ (.cons_expression owns whole outlined)
    (Tree.outline_tag numbered (by simp))
  simpa using passes.trans onward

/-- Blanks in front of the first branch of a choice are passed over by the walk as well. -/
theorem switch_outlined (owns : s.registries.operators.OwnsAliases) (rests : BranchesOutlined s budget)
    (numbered : s.registries.tags.get? id = some Core.switchTag) (closed : c.Closed)
    (reading : tagRest s (budget + 1) id Core.switchTag line c = .ok (tree, c')) : RestOutlined s "switch" c tree c' := by
  rw [tagRest] at reading
  obtain ⟨⟨subject, afterHead⟩, taking, rest⟩ := bind_eq_ok.mp reading
  obtain ⟨afterBlanks, skipping, rest⟩ := bind_eq_ok.mp rest
  obtain ⟨⟨⟨later, hasDefault⟩, last⟩, branching, ⟨⟩⟩ := bind_eq_ok.mp rest
  obtain ⟨tokens, finish, whole, isEnd, passes⟩ := (expressionTag_iff closed).mp taking
  have inside := closed.behind passes
  obtain ⟨blanks, areBlank, entered, -⟩ := (firstBranch_iff (inside.enter _ _ _)).mp skipping
  obtain ⟨behind, rfl, overBlanks⟩ := entered.of_enter
  obtain ⟨more, onward, outlined⟩ := rests Core.switchTag switchWords behind line false later hasDefault c' (by decide)
    (inside.behind overBlanks) branching
  obtain ⟨found, walk, same⟩ := Outlined.cons_expression owns whole (outlined true)
  refine ⟨tokens, finish, blanks ++ more, whole.kinds, isEnd, ?_, found, fun outline around => ?_, ?_⟩
  · simpa using passes.trans (overBlanks.trans onward)
  · rw [List.foldl_append, Outliner.foldl_blanks areBlank rfl]
    exact walk outline around
  · rw [Tree.outline_tag numbered (by simp)]
    exact same

/-- Only its ending belongs to a nested template, whichever core tags there are. -/
theorem template_owns (core : s.registries.tags.IsCore) (keyword : String)
    (owned : s.registries.tags.ownsKeyword "template" keyword = true) : keyword = "endtemplate" := by
  obtain ⟨tag, member, owned⟩ := List.any_eq_true.mp owned
  exact ownsKeyword_template (List.any_eq_true.mpr ⟨tag, core tag member, owned⟩)

theorem nested_outlined (core : s.registries.tags.IsCore) (bodies : ∀ smaller < budget, BodyOutlined s smaller)
    (numbered : s.registries.tags.get? id = some Core.templateTag) (fits : fitsGrammar Core.templateTag c = true)
    (closed : c.Closed) (reading : tagRest s (budget + 1) id Core.templateTag line c = .ok (tree, c')) :
    RestOutlined s "template" c tree c' := by
  rw [tagRest] at reading
  obtain ⟨⟨finish, afterHead⟩, ending, rest⟩ := bind_eq_ok.mp reading
  obtain ⟨⟨content, afterBody⟩, blocking, rest⟩ := bind_eq_ok.mp rest
  obtain ⟨⟨closer, afterCloser⟩, keyword, rest⟩ := bind_eq_ok.mp rest
  obtain ⟨⟨last, afterEnd⟩, finishing, rest⟩ := bind_eq_ok.mp rest
  obtain ⟨behind, closing, ⟨⟩⟩ := bind_eq_ok.mp rest
  have isName := (fitsGrammar_template.mp fits).1
  have overName := closed.next (by rcases isName with kind | kind <;> rw [kind] <;> decide)
  obtain ⟨isEnd, overEnd⟩ := (tagEnd_iff (closed.behind overName)).mp ending
  have inner := (closed.behind overName).behind overEnd
  obtain ⟨body, next, rfl, overBody, outlined, ended⟩ := block_outlined bodies inner blocking
  have isClosing : closer.value = "endtemplate" := ended.closer (template_owns core) (inner.behind overBody) keyword
  obtain ⟨tag, overClosing⟩ := closeBlock_sound (inner.behind overBody) isClosing keyword finishing closing
  obtain ⟨found, walk, same⟩ := outlined
  have kinds : ∀ token ∈ [c.current], token.kind ∈ Source.innerKinds := by
    rcases isName with kind | kind <;> simp [kind, Source.innerKinds]
  refine ⟨[c.current], finish, body ++ tag.around [], kinds, isEnd,
    overName.trans (overEnd.trans (overBody.trans overClosing)), .nested c.current.value found,
    Outliner.foldl_unit walk tag, ?_⟩
  have named : (Annotations.set {} "name" (.text c.current.value)).text? "name" = some c.current.value := rfl
  rw [Tree.outline_nested numbered named]
  refine .nested _ ?_
  simpa [Tree.outlineAll] using same

/-- Behind the start of a tag stands its keyword, unless another tag stands in for it. -/
theorem resolveTag_sound (closed : c.Closed) (reading : resolveTag s c = .ok (id, c')) :
    ∃ keyword head, s.registries.tags.lookup? keyword = some id ∧ c.Passes head c' ∧
      (∀ token ∈ head, token.kind ∈ Source.innerKinds) ∧
      ∀ content rest, c'.tokens = content ++ rest →
        tagParts s.fallbackTag (head ++ content) = (some keyword, content) := by
  rw [resolveTag] at reading
  dsimp only at reading
  split at reading
  · rename_i isKeyword
    split at reading
    · rename_i found
      cases reading
      refine ⟨_, [c.current], found, closed.next (by rw [isKeyword]; decide), ?_, fun content rest _ => ?_⟩
      · simp [isKeyword, Source.innerKinds]
      · simp [tagParts, isKeyword]
    · cases reading
  · rename_i notKeyword
    split at reading
    · rename_i fallback standsIn
      split at reading
      · rename_i found
        cases reading
        refine ⟨fallback, [], found, .refl _, List.forall_mem_nil _, fun content rest tokens => ?_⟩
        cases content with
        | nil => simp [tagParts, standsIn]
        | cons token content =>
            have first : c.current = token := Cursor.current_eq tokens
            simp [tagParts, standsIn, ← first, notKeyword]
      · cases reading
    · split at reading <;> cases reading

theorem tagRest_outlined (core : s.registries.tags.IsCore) (owns : s.registries.operators.OwnsAliases)
    (bodies : ∀ smaller < budget, BodyOutlined s smaller) (rests : BranchesOutlined s budget)
    (numbered : s.registries.tags.get? id = some definition) (fits : fitsGrammar definition c = true) (closed : c.Closed)
    (reading : tagRest s (budget + 1) id definition line c = .ok (tree, c')) :
    RestOutlined s definition.keyword c tree c' := by
  have isCore := coreTag?_of_get? core numbered
  cases form : definition.form with
  | print =>
      rw [form] at isCore
      obtain rfl := Option.some.inj isCore
      exact print_outlined numbered closed reading
  | inclusion =>
      rw [form] at isCore
      obtain rfl := Option.some.inj isCore
      exact inclusion_outlined numbered closed reading
  | assignment =>
      rw [form] at isCore
      obtain rfl := Option.some.inj isCore
      exact assignment_outlined owns numbered closed reading
  | conditional =>
      rw [form] at isCore
      obtain rfl := Option.some.inj isCore
      exact conditional_outlined owns bodies rests numbered closed reading
  | loop =>
      rw [form] at isCore
      obtain rfl := Option.some.inj isCore
      exact loop_outlined owns bodies rests numbered fits closed reading
  | switch =>
      rw [form] at isCore
      obtain rfl := Option.some.inj isCore
      exact switch_outlined owns rests numbered closed reading
  | nested =>
      rw [form] at isCore
      obtain rfl := Option.some.inj isCore
      exact nested_outlined core bodies numbered fits closed reading
  | custom takesExpression =>
      rw [form] at isCore
      cases isCore

theorem tag_outlined (core : s.registries.tags.IsCore) (owns : s.registries.operators.OwnsAliases)
    (bodies : ∀ smaller < budget, BodyOutlined s smaller) (rests : ∀ smaller < budget, BranchesOutlined s smaller)
    (closed : c.Closed) (reading : tag s budget c = .ok (tree, c')) :
    ∃ used, c.Passes used c' ∧ Outlined s false used [tree] := by
  cases budget with
  | zero =>
      rw [tag] at reading
      cases reading
  | succ budget =>
      rw [tag] at reading
      obtain ⟨⟨start, afterStart⟩, opening, rest⟩ := bind_eq_ok.mp reading
      obtain ⟨⟨id, behind⟩, resolving, rest⟩ := bind_eq_ok.mp rest
      obtain ⟨isStart, along⟩ := (expect_iff closed (by decide)).mp opening
      have inside := closed.behind along
      obtain ⟨keyword, head, found, overHead, innerHead, parts⟩ := resolveTag_sound inside resolving
      obtain ⟨definition, numbered, rfl⟩ := TagRegistry.get?_of_lookup? found
      dsimp only at rest
      rw [numbered] at rest
      dsimp only at rest
      split at rest
      · rename_i fits
        cases budget with
        | zero =>
            rw [tagRest] at rest
            cases rest
        | succ budget =>
            obtain ⟨content, finish, more, inner, isEnd, onward, outline, walk, same⟩ :=
              tagRest_outlined core owns (fun smaller below => bodies smaller (by omega)) (rests budget (by omega))
                numbered fits (inside.behind overHead) rest
            have parts := parts content _ (onward.tokens.trans (List.append_assoc ..))
            have inner : ∀ token ∈ head ++ content, token.kind ∈ Source.innerKinds :=
              List.forall_mem_append.mpr ⟨innerHead, inner⟩
            refine ⟨_, along.trans (overHead.trans onward), .single (fun outer around => ?_) same⟩
            have whole : [start] ++ (head ++ (content ++ finish :: more)) =
                start :: (head ++ content) ++ [finish] ++ more := by simp
            rw [whole, List.foldl_append, Outliner.foldl_tag (fits_kind.mp isStart) isEnd inner parts rfl]
            exact walk outer around
      · cases rest

theorem body_outlined (core : s.registries.tags.IsCore) (owns : s.registries.operators.OwnsAliases)
    (bodies : ∀ smaller < budget, BodyOutlined s smaller) (rests : ∀ smaller < budget, BranchesOutlined s smaller) :
    BodyOutlined s budget := by
  intro c trees c' closed reading
  cases budget with
  | zero =>
      rw [body] at reading
      cases reading
  | succ budget =>
      have onward {d last : Cursor} {piece : List Token} {node : Tree} {later : List Tree} (passes : c.Passes piece d)
          (first : Outlined s false piece [node]) (following : body s budget d = .ok (later, last)) :
          ∃ used, c.Passes used last ∧ Outlined s false used (node :: later) ∧ Ended s last := by
        obtain ⟨used, along, outlined, ended⟩ :=
          bodies budget (Nat.lt_succ_self _) d later last (closed.behind passes) following
        exact ⟨piece ++ used, passes.trans along, first.append outlined, ended⟩
      rw [body] at reading
      split at reading
      · rename_i isEnd
        split at reading
        · cases reading
        · rename_i outside
          cases reading
          exact ⟨[], .refl c, .nil, .inl ⟨isEnd, outside⟩⟩
      · rename_i isText
        obtain ⟨node, printing, rest⟩ := bind_eq_ok.mp reading
        obtain ⟨⟨later, last⟩, following, ⟨⟩⟩ := bind_eq_ok.mp rest
        obtain ⟨id, known, ⟨⟩⟩ := bind_eq_ok.mp printing
        refine onward (closed.next (by rw [isText]; decide)) (.single (Outliner.adds_text isText) ?_) following
        rw [Tree.outline_print (get?_printTag core known)]
        exact .single (.text c.current.value)
      · rename_i isStart
        obtain ⟨⟨node, between⟩, writing, rest⟩ := bind_eq_ok.mp reading
        obtain ⟨⟨later, last⟩, following, ⟨⟩⟩ := bind_eq_ok.mp rest
        obtain ⟨id, known, -⟩ := bind_eq_ok.mp writing
        obtain ⟨tokens, finish, value, whole, isEnd, passes, rfl⟩ := (output_iff known closed isStart).mp writing
        refine onward passes (.single (Outliner.adds_output isStart isEnd whole.kinds) ?_) following
        rw [Tree.outline_print (get?_printTag core known)]
        exact .single (.value whole)
      · rename_i isStart
        dsimp only at reading
        split at reading
        · rename_i isBlockKeyword
          split at reading
          · rename_i owned
            cases reading
            exact ⟨[], .refl c, .nil, .inr ⟨isStart, isBlockKeyword.1, owned⟩⟩
          · cases reading
        · obtain ⟨⟨node, between⟩, tagging, rest⟩ := bind_eq_ok.mp reading
          obtain ⟨⟨later, last⟩, following, ⟨⟩⟩ := bind_eq_ok.mp rest
          obtain ⟨used, passes, outlined⟩ := tag_outlined core owns (fun smaller below => bodies smaller (by omega))
            (fun smaller below => rests smaller (by omega)) closed tagging
          exact onward passes outlined following
      · cases reading

theorem readings_outlined (core : s.registries.tags.IsCore) (owns : s.registries.operators.OwnsAliases) (budget : Nat) :
    BodyOutlined s budget ∧ BranchesOutlined s budget := by
  induction budget using Nat.strong_induction_on with
  | _ budget ih =>
      have bodies : ∀ smaller < budget, BodyOutlined s smaller := fun smaller below => (ih smaller below).1
      have rests : ∀ smaller < budget, BranchesOutlined s smaller := fun smaller below => (ih smaller below).2
      exact ⟨body_outlined core owns bodies rests, branches_outlined owns bodies rests⟩

/-- The tree of a template has the parts that a walk over its tokens finds. -/
theorem template_outlined (core : s.registries.tags.IsCore) (owns : s.registries.operators.OwnsAliases)
    {front : List Token} {last : Token} (ending : last.kind = .eof) (inside : ∀ token ∈ front, token.kind ≠ .eof)
    (reading : template s (front ++ [last]) = .ok tree) :
    (outlineOf s.fallbackTag (front ++ [last])).Matches (Part.Reads s.registries) (tree.outline s.registries) := by
  let start : Cursor := { stream := .ofTokens (front ++ [last]) }
  have tokens : start.tokens = front ++ [last] := tokens_ofTokens ending
  have closed : start.Closed := closed_ofTokens ending
  obtain ⟨⟨trees, behind⟩, taking, rest⟩ := bind_eq_ok.mp reading
  obtain ⟨-, -, ⟨⟩⟩ := bind_eq_ok.mp rest
  obtain ⟨used, entered, outlined, ended⟩ :=
    (readings_outlined core owns start.budget).1 _ trees behind (closed.enter .text "template" 1) taking
  obtain ⟨inner, rfl, passes⟩ := entered.of_enter
  obtain rfl := front_of_passes tokens inside passes (ended_outside.mp ended)
  obtain ⟨found, walk, same⟩ := outlined
  have walked : outlineOf s.fallbackTag (used ++ [last]) = found := by
    rw [outlineOf, List.foldl_append, walk {} [], List.foldl_cons, List.foldl_nil, Outliner.step_of_kind ending (by simp)]
    simp
  rw [walked]
  exact same

end

end Parse

end Templating
