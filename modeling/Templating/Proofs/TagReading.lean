import Templating.Proofs.BlockGrammar
import Templating.Proofs.CoreExtension
import Templating.Proofs.Registration
import Templating.Registry.Core

/-! # Reading the parts of a tag

Each reader of a part of a tag succeeds exactly on the tokens of that part, wherever it starts.
-/

namespace Templating.Parse

variable {r : Registries} {c c' : Cursor} {token word value : Token} {tokens : List Token} {tree : Tree}

theorem expect_iff (closed : c.Closed) {kind : TokenKind} {text : Option String} (inside : kind ≠ .eof) :
    c.expect kind text = .ok (token, c') ↔ TokenStream.fits token kind text = true ∧ c.Passes [token] c' := by
  constructor
  · intro expected
    obtain ⟨fits, rfl, rfl⟩ := Cursor.fits_of_expect expected
    have ofKind : c.current.kind = kind := by
      rw [TokenStream.fits, Bool.and_eq_true, beq_iff_eq] at fits
      exact fits.1
    exact ⟨fits, closed.next (ofKind ▸ inside)⟩
  · rintro ⟨fits, passes⟩
    obtain ⟨rfl, nothing⟩ := passes.uncons
    rw [nothing.eq_of_nil]
    exact Cursor.expect_of_fits fits

theorem fits_kind {kind : TokenKind} : TokenStream.fits token kind none = true ↔ token.kind = kind := by
  rw [TokenStream.fits, Option.all_none, Bool.and_true, beq_iff_eq]

theorem tagEnd_iff (closed : c.Closed) :
    tagEnd c = .ok (token, c') ↔ token.kind = .tagEnd ∧ c.Passes [token] c' := by
  rw [tagEnd, expect_iff closed (by decide), fits_kind]

theorem branchKeyword_iff (closed : c.Closed) :
    branchKeyword c = .ok (word, c') ↔
      ∃ start, start.kind = .tagStart ∧ word.kind = .keyword ∧ c.Passes [start, word] c' := by
  constructor
  · intro reading
    obtain ⟨⟨start, between⟩, opening, keyword⟩ := bind_eq_ok.mp reading
    obtain ⟨isStart, along⟩ := (expect_iff closed (by decide)).mp opening
    obtain ⟨isKeyword, onward⟩ := (expect_iff (closed.behind along) (by decide)).mp keyword
    exact ⟨start, fits_kind.mp isStart, fits_kind.mp isKeyword, along.trans onward⟩
  · rintro ⟨start, isStart, isKeyword, passes⟩
    have passes : c.Passes ([start] ++ [word]) c' := passes
    obtain ⟨along, onward⟩ := passes.split
    rw [branchKeyword, (expect_iff closed (by decide)).mpr ⟨fits_kind.mpr isStart, along⟩]
    exact (expect_iff (closed.behind along) (by decide)).mpr ⟨fits_kind.mpr isKeyword, onward⟩

theorem expression_iff (closed : c.Closed) (ends : Ends c'.current) :
    expression r c = .ok (tree, c') ↔ ∃ tokens, ReadsWhole r tokens tree ∧ c.Passes tokens c' := by
  constructor
  · intro reading
    obtain ⟨tokens, passes, whole⟩ := readsWhole_of_expression closed reading ends
    exact ⟨tokens, whole, passes⟩
  · rintro ⟨tokens, whole, passes⟩
    rw [whole.expression passes.tokens ends, ← passes.skip]

theorem ends_of_kind {kind : TokenKind} (ofKind : token.kind = kind) (notOperator : kind ≠ .operator)
    (notPunctuation : kind ≠ .punctuation) : Ends token :=
  .of_kind (ofKind ▸ notOperator) (ofKind ▸ notPunctuation)

theorem ends_of_tagEnd (ending : tagEnd c = .ok (token, c')) : Ends c.current := by
  obtain ⟨fits, -, -⟩ := Cursor.fits_of_expect ending
  exact ends_of_kind (fits_kind.mp fits) (by decide) (by decide)

theorem expressionTag_iff (closed : c.Closed) :
    expressionTag r c = .ok (tree, c') ↔
      ∃ tokens finish, ReadsWhole r tokens tree ∧ finish.kind = .tagEnd ∧ c.Passes (tokens ++ [finish]) c' := by
  constructor
  · intro reading
    obtain ⟨⟨found, between⟩, taking, rest⟩ := bind_eq_ok.mp reading
    obtain ⟨⟨finish, last⟩, ending, result⟩ := bind_eq_ok.mp rest
    cases result
    obtain ⟨tokens, whole, passes⟩ := (expression_iff closed (ends_of_tagEnd ending)).mp taking
    obtain ⟨isEnd, onward⟩ := (tagEnd_iff (closed.behind passes)).mp ending
    exact ⟨tokens, finish, whole, isEnd, passes.trans onward⟩
  · rintro ⟨tokens, finish, whole, isEnd, passes⟩
    obtain ⟨front, onward⟩ := passes.split
    have ends : Ends (c.skip tokens.length).current := by
      rw [onward.uncons.1]
      exact ends_of_kind isEnd (by decide) (by decide)
    rw [expressionTag, (expression_iff closed ends).mpr ⟨tokens, whole, front⟩]
    dsimp only [ok_bind]
    rw [(tagEnd_iff (closed.behind front)).mpr ⟨isEnd, onward⟩]
    rfl

theorem IsVariable.inside (isVariable : IsVariable token) : token.kind ≠ .eof := by
  rcases isVariable with isIdentifier | ⟨isOperator, -⟩
  · rw [isIdentifier]
    decide
  · rw [isOperator]
    decide

theorem name_iff (closed : c.Closed) {what : String} :
    name what c = .ok (token, c') ↔ IsVariable token ∧ c.Passes [token] c' := by
  rw [name]
  constructor
  · intro reading
    split at reading
    · rename_i isVariable
      cases reading
      exact ⟨isVariable, closed.next (IsVariable.inside isVariable)⟩
    · cases reading
  · rintro ⟨isVariable, passes⟩
    obtain ⟨rfl, nothing⟩ := passes.uncons
    rw [nothing.eq_of_nil]
    exact if_pos isVariable

theorem isWord_inside {text : String} (isWord : token.isWord text = true) : token.kind ≠ .eof := by
  intro ending
  rw [Token.isWord, ending] at isWord
  cases isWord

theorem word_iff (closed : c.Closed) {text : String} :
    c.expectOneOf [.word text] = .ok (token, c') ↔ token.isWord text = true ∧ c.Passes [token] c' := by
  constructor
  · intro expected
    obtain ⟨isWord, rfl, rfl⟩ := Cursor.accepts_of_expectOneOf expected
    exact ⟨isWord, closed.next (isWord_inside isWord)⟩
  · rintro ⟨isWord, passes⟩
    obtain ⟨rfl, nothing⟩ := passes.uncons
    rw [nothing.eq_of_nil]
    exact Cursor.expectOneOf_of_accepts isWord

/-- The variables of a loop: a name, or two with a comma between them. -/
inductive LoopTargets : List Token → LoopVariables → Prop
  | value {name : Token} : IsVariable name → LoopTargets [name] ⟨none, name.value⟩
  | pair {key comma name : Token} :
      IsVariable key → comma.isPunctuation "," = true → IsVariable name →
      LoopTargets [key, comma, name] ⟨some key.value, name.value⟩

theorem loopVariables_iff (closed : c.Closed) (noComma : c'.current.isPunctuation "," = false)
    {targets : LoopVariables} :
    loopVariables c = .ok (targets, c') ↔ ∃ tokens, LoopTargets tokens targets ∧ c.Passes tokens c' := by
  constructor
  · intro reading
    obtain ⟨⟨first, between⟩, naming, rest⟩ := bind_eq_ok.mp reading
    obtain ⟨isVariable, along⟩ := (name_iff closed).mp naming
    dsimp only at rest
    split at rest
    · rename_i comma
      obtain ⟨⟨second, last⟩, naming, result⟩ := bind_eq_ok.mp rest
      cases result
      have onward := (closed.behind along).punctuation comma
      obtain ⟨isSecond, final⟩ := (name_iff ((closed.behind along).behind onward)).mp naming
      exact ⟨_, .pair isVariable comma isSecond, along.trans (onward.trans final)⟩
    · cases rest
      exact ⟨_, .value isVariable, along⟩
  · rintro ⟨tokens, targetting, passes⟩
    cases targetting with
    | value isVariable =>
        rw [loopVariables, (name_iff closed).mpr ⟨isVariable, passes⟩]
        dsimp only [ok_bind]
        rw [noComma]
        rfl
    | pair isKey comma isName =>
        rename_i key between name
        have passes : c.Passes ([key] ++ [between, name]) c' := passes
        obtain ⟨along, onward⟩ := passes.split
        obtain ⟨here, final⟩ := onward.uncons
        rw [loopVariables, (name_iff closed).mpr ⟨isKey, along⟩]
        dsimp only [ok_bind]
        rw [here, if_pos comma, (name_iff ?_).mpr ⟨isName, final⟩]
        · rfl
        · have passed : (c.skip [key].length).Passes ([between] ++ [name]) c' := onward
          exact (closed.behind along).behind passed.split.1

theorem isPunctuation_of_isWord {text other : String} (isWord : token.isWord text = true) :
    token.isPunctuation other = false := by
  rw [Token.isWord, Bool.and_eq_true, Bool.or_eq_true, Bool.or_eq_true, beq_iff_eq, beq_iff_eq,
    beq_iff_eq] at isWord
  rcases isWord.1 with (isKind | isKind) | isKind <;> rw [Token.isPunctuation, isKind] <;> rfl

/-- The variables of a loop, the word behind them and the expression. -/
def loopTargets (r : Registries) (c : Cursor) : Except ParseError ((LoopVariables × Tree) × Cursor) := do
  let (targets, c) ← loopVariables c
  let (_, c) ← c.expectOneOf [.word "in"]
  let (iterable, c) ← expression r c
  return ((targets, iterable), c)

theorem loopTargets_iff (closed : c.Closed) (ends : Ends c'.current) {targets : LoopVariables} {iterable : Tree} :
    loopTargets r c = .ok ((targets, iterable), c') ↔
      ∃ names word tokens, LoopTargets names targets ∧ word.isWord "in" = true ∧ ReadsWhole r tokens iterable ∧
        c.Passes (names ++ word :: tokens) c' := by
  constructor
  · intro reading
    obtain ⟨⟨found, between⟩, naming, rest⟩ := bind_eq_ok.mp reading
    obtain ⟨⟨word, behind⟩, wording, rest⟩ := bind_eq_ok.mp rest
    obtain ⟨⟨value, last⟩, taking, result⟩ := bind_eq_ok.mp rest
    cases result
    obtain ⟨isWord, -, -⟩ := Cursor.accepts_of_expectOneOf wording
    obtain ⟨names, targetting, along⟩ := (loopVariables_iff closed (isPunctuation_of_isWord isWord)).mp naming
    obtain ⟨isWord, onward⟩ := (word_iff (closed.behind along)).mp wording
    obtain ⟨tokens, whole, final⟩ := (expression_iff ((closed.behind along).behind onward) ends).mp taking
    exact ⟨names, word, tokens, targetting, isWord, whole, along.trans (onward.trans final)⟩
  · rintro ⟨names, word, tokens, targetting, isWord, whole, passes⟩
    obtain ⟨along, onward⟩ := passes.split
    have onward : (c.skip names.length).Passes ([word] ++ tokens) c' := onward
    obtain ⟨wording, final⟩ := onward.split
    have noComma : (c.skip names.length).current.isPunctuation "," = false := by
      rw [wording.uncons.1]
      exact isPunctuation_of_isWord isWord
    rw [loopTargets, (loopVariables_iff closed noComma).mpr ⟨names, targetting, along⟩]
    dsimp only [ok_bind]
    rw [(word_iff (closed.behind along)).mpr ⟨isWord, wording⟩]
    dsimp only [ok_bind]
    rw [(expression_iff ((closed.behind along).behind wording) ends).mpr ⟨tokens, whole, final⟩]
    rfl

theorem loopHeader_eq (r : Registries) (c : Cursor) :
    loopHeader r c =
      if c.current.isPunctuation "(" then
        loopTargets r (c.next.enter .expression "(" c.current.line) >>= fun found =>
          found.2.close .expression "(" closeParen >>= fun behind =>
            tagEnd behind >>= fun finish => .ok (found.1, finish.2)
      else loopTargets r c >>= fun found => tagEnd found.2 >>= fun finish => .ok (found.1, finish.2) := by
  rw [loopHeader, loopTargets, loopTargets]
  by_cases bracketed : c.current.isPunctuation "(" = true
  · simp only [bracketed, if_true, bind_assoc, pure_eq_ok, ok_bind]
  · simp only [bracketed, Bool.false_eq_true, if_false, bind_assoc, pure_eq_ok, ok_bind]

theorem fitsGrammar_for : fitsGrammar Core.forTag c = true ↔
    (c.current.isPunctuation "(" = true ∧ (c.stream.ahead 1).kind = .identifier) ∨
    (c.current.kind = .identifier ∧ (c.stream.ahead 1).isWord "in" = true) ∨
    (c.current.kind = .identifier ∧ (c.stream.ahead 1).isPunctuation "," = true ∧
      (c.stream.ahead 2).kind = .identifier) := by
  simp [fitsGrammar, Core.forTag, TokenStream.testSequence, TokenPattern.accepts,
    Token.isPunctuation, TokenStream.ahead, Cursor.current]

section

variable {names : List Token} {targets : LoopVariables} {iterable : Tree} {finish opening closing : Token}

theorem loopHead_plain (targetting : LoopTargets names targets) (isWord : word.isWord "in" = true)
    (whole : ReadsWhole r tokens iterable) (passes : c.Passes (names ++ word :: tokens) c')
    (plain : c.current.isPunctuation "(" = false) (fits : fitsGrammar Core.forTag c = true) :
    LoopHead r (names ++ word :: tokens) targets iterable := by
  have forms := fitsGrammar_for.mp fits
  rw [plain] at forms
  cases targetting with
  | value isVariable =>
      have second := Cursor.ahead_one passes.tokens
      rw [second, isPunctuation_of_isWord isWord, Cursor.current_eq passes.tokens] at forms
      rcases forms with ⟨impossible, -⟩ | ⟨isIdentifier, -⟩ | ⟨-, impossible, -⟩
      · cases impossible
      · exact .value isIdentifier isWord whole
      · cases impossible
  | pair isKey comma isName =>
      rw [Cursor.ahead_one passes.tokens, Cursor.ahead_two passes.tokens, Cursor.current_eq passes.tokens] at forms
      rcases forms with ⟨impossible, -⟩ | ⟨-, impossible⟩ | ⟨isIdentifier, -, isSecond⟩
      · cases impossible
      · rw [isPunctuation_of_isWord impossible] at comma
        cases comma
      · exact .pair isIdentifier comma isSecond isWord whole

theorem loopHead_bracketed (targetting : LoopTargets names targets) (isWord : word.isWord "in" = true)
    (whole : ReadsWhole r tokens iterable) (shut : closing.isPunctuation ")" = true)
    (passes : c.Passes (opening :: names ++ word :: tokens ++ [closing]) c')
    (bracketed : opening.isPunctuation "(" = true) (fits : fitsGrammar Core.forTag c = true) :
    LoopHead r (opening :: names ++ word :: tokens ++ [closing]) targets iterable := by
  have forms := fitsGrammar_for.mp fits
  have notIdentifier : opening.kind ≠ .identifier := by
    rw [(Token.isPunctuation_iff.mp bracketed).1]
    decide
  rw [Cursor.current_eq passes.tokens] at forms
  cases targetting with
  | value isVariable =>
      rw [Cursor.ahead_one passes.tokens] at forms
      rcases forms with ⟨-, isIdentifier⟩ | ⟨impossible, -⟩ | ⟨impossible, -⟩
      · exact .bracketedValue bracketed isIdentifier isWord whole shut
      · exact absurd impossible notIdentifier
      · exact absurd impossible notIdentifier
  | pair isKey comma isName =>
      rw [Cursor.ahead_one passes.tokens] at forms
      rcases forms with ⟨-, isIdentifier⟩ | ⟨impossible, -⟩ | ⟨impossible, -⟩
      · exact .bracketedPair bracketed isIdentifier comma isName isWord whole shut
      · exact absurd impossible notIdentifier
      · exact absurd impossible notIdentifier

theorem loopHeader_sound (closed : c.Closed) (fits : fitsGrammar Core.forTag c = true)
    (reading : loopHeader r c = .ok ((targets, iterable), c')) :
    ∃ head finish, LoopHead r head targets iterable ∧ finish.kind = .tagEnd ∧ c.Passes (head ++ [finish]) c' := by
  rw [loopHeader_eq] at reading
  split at reading
  · rename_i bracketed
    obtain ⟨⟨found, between⟩, taking, rest⟩ := bind_eq_ok.mp reading
    obtain ⟨behind, closing, rest⟩ := bind_eq_ok.mp rest
    obtain ⟨⟨finish, last⟩, ending, result⟩ := bind_eq_ok.mp rest
    cases result
    have along := closed.punctuation bracketed
    have shut : between.current.isPunctuation ")" = true := Cursor.accepts_of_close closing
    obtain ⟨names, word, tokens, targetting, isWord, whole, entered⟩ :=
      (loopTargets_iff ((closed.behind along).enter _ _ _) (.of_punctuation shut (by decide))).mp taking
    obtain ⟨passes, -⟩ := entered.closed (closed.behind along) (Token.ne_eof_of_isPunctuation shut) closing
    have passes := along.trans passes
    obtain ⟨isEnd, onward⟩ := (tagEnd_iff (closed.behind passes)).mp ending
    exact ⟨_, finish, loopHead_bracketed targetting isWord whole shut passes bracketed fits, isEnd,
      passes.trans onward⟩
  · rename_i plain
    obtain ⟨⟨found, between⟩, taking, rest⟩ := bind_eq_ok.mp reading
    obtain ⟨⟨finish, last⟩, ending, result⟩ := bind_eq_ok.mp rest
    cases result
    obtain ⟨names, word, tokens, targetting, isWord, whole, passes⟩ :=
      (loopTargets_iff closed (ends_of_tagEnd ending)).mp taking
    obtain ⟨isEnd, onward⟩ := (tagEnd_iff (closed.behind passes)).mp ending
    exact ⟨_, finish, loopHead_plain targetting isWord whole passes (by simpa using plain) fits, isEnd,
      passes.trans onward⟩

theorem loopHeader_of_plain (closed : c.Closed) (plain : c.current.isPunctuation "(" = false)
    (targetting : LoopTargets names targets) (isWord : word.isWord "in" = true)
    (whole : ReadsWhole r tokens iterable) {between : Cursor} (front : c.Passes (names ++ word :: tokens) between)
    (ending : tagEnd between = .ok (finish, c')) : loopHeader r c = .ok ((targets, iterable), c') := by
  have taking := (loopTargets_iff closed (ends_of_tagEnd ending)).mpr
    ⟨names, word, tokens, targetting, isWord, whole, front⟩
  rw [loopHeader_eq, plain, if_neg (by decide), taking]
  dsimp only [ok_bind]
  rw [ending]
  rfl

theorem loopHeader_of_bracketed (closed : c.Closed) (opens : opening.isPunctuation "(" = true)
    (targetting : LoopTargets names targets) (isWord : word.isWord "in" = true)
    (whole : ReadsWhole r tokens iterable) (shut : closing.isPunctuation ")" = true) {behind : Cursor}
    (front : c.Passes ([opening] ++ (names ++ word :: tokens ++ [closing])) behind)
    (ending : tagEnd behind = .ok (finish, c')) : loopHeader r c = .ok ((targets, iterable), c') := by
  obtain ⟨along, inner⟩ := front.split
  have accepted : closeParen.accepts closing = true := shut
  obtain ⟨between, entered, remaining, closes⟩ := inner.close accepted .expression "(" opening.line
  have ends : Ends between.current := by
    rw [Cursor.current_eq remaining]
    exact .of_punctuation shut (by decide)
  have taking : loopTargets r (c.next.enter .expression "(" opening.line) = .ok ((targets, iterable), between) :=
    (loopTargets_iff ((closed.behind along).enter _ _ _) ends).mpr
      ⟨names, word, tokens, targetting, isWord, whole, entered⟩
  rw [loopHeader_eq, along.uncons.1, opens, if_pos rfl, taking]
  dsimp only [ok_bind]
  rw [closes]
  dsimp only [ok_bind]
  rw [ending]
  rfl

theorem isPunctuation_of_identifier {text : String} (isIdentifier : token.kind = .identifier) :
    token.isPunctuation text = false := by
  rw [Token.isPunctuation, isIdentifier]
  rfl

/-- The tokens of a head fit the grammar of the tag and are read as that head. -/
theorem loopHeader_complete (closed : c.Closed) {head : List Token} (isHead : LoopHead r head targets iterable)
    (isEnd : finish.kind = .tagEnd) (passes : c.Passes (head ++ [finish]) c') :
    fitsGrammar Core.forTag c = true ∧ loopHeader r c = .ok ((targets, iterable), c') := by
  obtain ⟨front, onward⟩ := passes.split
  have ending := (tagEnd_iff (closed.behind front)).mpr ⟨isEnd, onward⟩
  rw [fitsGrammar_for]
  cases isHead with
  | value isIdentifier isWord whole =>
      rename_i name word tokens
      rw [Cursor.ahead_one front.tokens, Cursor.current_eq front.tokens]
      have front : c.Passes ([name] ++ word :: tokens) _ := front
      refine ⟨.inr (.inl ⟨isIdentifier, isWord⟩), ?_⟩
      refine loopHeader_of_plain closed ?_ (.value (.inl isIdentifier)) isWord whole front ending
      rw [front.uncons.1]
      exact isPunctuation_of_identifier isIdentifier
  | pair isKey comma isName isWord whole =>
      rename_i key between name word tokens
      rw [Cursor.ahead_one front.tokens, Cursor.ahead_two front.tokens, Cursor.current_eq front.tokens]
      have front : c.Passes ([key, between, name] ++ word :: tokens) _ := front
      refine ⟨.inr (.inr ⟨isKey, comma, isName⟩), ?_⟩
      refine loopHeader_of_plain closed ?_ (.pair (.inl isKey) comma (.inl isName)) isWord whole front ending
      rw [front.uncons.1]
      exact isPunctuation_of_identifier isKey
  | bracketedValue opens isIdentifier isWord whole shut =>
      rename_i opening name word closing tokens
      rw [Cursor.ahead_one front.tokens, Cursor.current_eq front.tokens]
      have front : c.Passes ([opening] ++ ([name] ++ word :: tokens ++ [closing])) _ := front
      exact ⟨.inl ⟨opens, isIdentifier⟩,
        loopHeader_of_bracketed closed opens (.value (.inl isIdentifier)) isWord whole shut front ending⟩
  | bracketedPair opens isKey comma isName isWord whole shut =>
      rename_i opening key between name word closing tokens
      rw [Cursor.ahead_one front.tokens, Cursor.current_eq front.tokens]
      have front : c.Passes ([opening] ++ ([key, between, name] ++ word :: tokens ++ [closing])) _ := front
      exact ⟨.inl ⟨opens, isKey⟩,
        loopHeader_of_bracketed closed opens (.pair (.inl isKey) comma isName) isWord whole shut front ending⟩

end

/-- The core tags, and no tag that stands in for others. -/
structure CoreSetting (s : Setting) : Prop where
  tags : s.registries.tags.tags = Core.tags
  fallback : s.fallbackTag = none

variable {s : Setting}

/-- The core tags, whatever stands in for others. -/
structure Setting.HasCoreTags (s : Setting) : Prop where
  registry : s.registries.tags = ⟨Core.tags⟩

theorem CoreSetting.hasCoreTags (core : CoreSetting s) : s.HasCoreTags :=
  ⟨congrArg TagRegistry.mk core.tags⟩

theorem CoreSetting.registry (core : CoreSetting s) : s.registries.tags = ⟨Core.tags⟩ :=
  core.hasCoreTags.registry

theorem CoreSetting.of_build (built : Registries.build [Core.extension] = .ok r) : CoreSetting ⟨r, none⟩ := by
  obtain rfl := Registries.eq_core_of_build built
  exact ⟨rfl, rfl⟩

theorem Setting.HasCoreTags.printTag (core : s.HasCoreTags) (line : Nat) : s.printTag line = .ok 0 := by
  have found : TagRegistry.lookup? ⟨Core.tags⟩ printKeyword = some 0 := by decide
  rw [Setting.printTag, core.registry, found]

theorem output_iff {id : Nat} (printing : s.printTag c.current.line = .ok id) (closed : c.Closed)
    (start : c.current.kind = .expressionStart) :
    output s c = .ok (tree, c') ↔
      ∃ tokens finish value, ReadsWhole s.registries tokens value ∧ finish.kind = .expressionEnd ∧
        c.Passes (c.current :: tokens ++ [finish]) c' ∧ tree = .tag id [value] c.current.line {} := by
  have along := closed.next (by rw [start]; decide)
  rw [output, printing]
  dsimp only [ok_bind]
  constructor
  · intro reading
    obtain ⟨⟨value, between⟩, taking, rest⟩ := bind_eq_ok.mp reading
    obtain ⟨behind, closing, result⟩ := bind_eq_ok.mp rest
    cases result
    have isEnd : between.current.kind = .expressionEnd := beq_iff_eq.mp (Cursor.accepts_of_close closing)
    obtain ⟨tokens, whole, entered⟩ := (expression_iff ((closed.behind along).enter _ _ _)
      (ends_of_kind isEnd (by decide) (by decide))).mp taking
    obtain ⟨passes, -⟩ := entered.closed (closed.behind along) (by rw [isEnd]; decide) closing
    exact ⟨tokens, _, value, whole, isEnd, along.trans passes, rfl⟩
  · rintro ⟨tokens, finish, value, whole, isEnd, passes, rfl⟩
    have inner : c.next.Passes (tokens ++ [finish]) c' := passes.uncons.2
    have accepted : (TokenPattern.kind .expressionEnd).accepts finish = true := beq_iff_eq.mpr isEnd
    obtain ⟨between, entered, remaining, closes⟩ := inner.close accepted .expression "\x7b\x7b" c.current.line
    have ends : Ends between.current := by
      rw [Cursor.current_eq remaining]
      exact ends_of_kind isEnd (by decide) (by decide)
    rw [(expression_iff ((closed.behind along).enter _ _ _) ends).mpr ⟨tokens, whole, entered⟩]
    dsimp only [ok_bind]
    rw [closes]
    rfl

theorem skipBlankText_sound (closed : c.Closed) {count : Nat} (skipping : skipBlankText c count = .ok c') :
    ∃ blanks, (∀ blank ∈ blanks, IsBlankText blank) ∧ c.Passes blanks c' := by
  induction count generalizing c with
  | zero =>
      cases skipping
      exact ⟨[], nofun, .refl _⟩
  | succ count ih =>
      rw [skipBlankText] at skipping
      split at skipping
      · rename_i isText
        split at skipping
        · rename_i isBlank
          have along := closed.next (by rw [isText]; decide)
          obtain ⟨blanks, areBlank, passes⟩ := ih (closed.behind along) skipping
          exact ⟨c.current :: blanks, List.forall_mem_cons.mpr ⟨⟨isText, isBlank⟩, areBlank⟩, along.trans passes⟩
        · cases skipping
      · cases skipping
        exact ⟨[], nofun, .refl _⟩

theorem skipBlankText_complete {blanks : List Token} (areBlank : ∀ blank ∈ blanks, IsBlankText blank)
    (passes : c.Passes blanks c') (stops : c'.current.kind ≠ .text) {count : Nat}
    (enough : blanks.length < count) : skipBlankText c count = .ok c' := by
  induction blanks generalizing c count with
  | nil =>
      obtain ⟨count, rfl⟩ : ∃ more, count = more + 1 := ⟨count - 1, by omega⟩
      obtain rfl := passes.eq_of_nil
      rw [skipBlankText, if_neg stops]
  | cons blank blanks ih =>
      obtain ⟨count, rfl⟩ : ∃ more, count = more + 1 := ⟨count - 1, by omega⟩
      obtain ⟨⟨isText, isBlank⟩, areBlank⟩ := List.forall_mem_cons.mp areBlank
      obtain ⟨here, onward⟩ := passes.uncons
      rw [skipBlankText, here, if_pos isText, if_pos isBlank]
      exact ih areBlank onward (Nat.lt_of_succ_lt_succ enough)

/-- A branch of a choice is in front. -/
def AtBranch (s : Setting) (c : Cursor) : Prop :=
  c.current.kind = .tagStart ∧ (c.stream.ahead 1).kind = .keyword ∧
    s.registries.tags.ownsKeyword "switch" (c.stream.ahead 1).value = true

theorem firstBranch_iff (closed : c.Closed) {line : Nat} :
    firstBranch s line c = .ok c' ↔
      ∃ blanks, (∀ blank ∈ blanks, IsBlankText blank) ∧ c.Passes blanks c' ∧ AtBranch s c' := by
  constructor
  · intro reading
    obtain ⟨behind, skipping, rest⟩ := bind_eq_ok.mp reading
    obtain ⟨blanks, areBlank, passes⟩ := skipBlankText_sound closed skipping
    dsimp only at rest
    split at rest
    · cases rest
    split at rest
    · rename_i isStart
      split at rest
      · rename_i owned
        cases rest
        exact ⟨blanks, areBlank, passes, isStart, owned⟩
      · cases rest
    · cases rest
  · rintro ⟨blanks, areBlank, passes, isStart, owned⟩
    have length := passes.length
    have some_token : 0 < c'.tokens.length := List.length_pos_iff.mpr c'.tokens_ne_nil
    rw [← c.later_length] at length
    rw [firstBranch, skipBlankText_complete areBlank passes (by rw [isStart]; decide) (by omega)]
    dsimp only [ok_bind]
    rw [isStart, if_neg (by decide), if_pos rfl, if_pos owned]

end Templating.Parse
