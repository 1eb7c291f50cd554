import Templating.Proofs.CoreVocabulary
import Templating.Proofs.TagSources
import Templating.Proofs.OutputWriting

/-! # The names that tags bind

An operator word that is read as a variable in an expression cannot be bound everywhere. The forms of a tag ask for an
identifier in front, so `set` and `for` refuse such a word as the first name, and `for` also as the second one. Only in
brackets is the second name free: there the tag itself reads it, and it takes every word that is a name in an
expression.
-/

namespace Templating

namespace Source

variable {behind : List Char} {faces : List (TokenKind × String)}

/-- An assignment of the number one. -/
def assignmentSource (name : String) : String :=
  "\x7b% set " ++ name ++ " = 1 %\x7d"

/-- A loop with an empty body, by what stands in its head. -/
def loopSource (head : String) : String :=
  "\x7b% for " ++ head ++ " %\x7d\x7b% endfor %\x7d"

/-- The tokens of an assignment of the number one. -/
def assignmentTokens (target : TokenKind × String) : List Token :=
  onFirstLine (tagFaces [(.keyword, "set"), target, (.punctuation, "="), (.literal, "1")] ++ [(.eof, "")])

/-- The tokens of a loop with an empty body. -/
def loopTokens (head : List (TokenKind × String)) : List Token :=
  onFirstLine (tagFaces ((.keyword, "for") :: head) ++ tagFaces [(.keyword, "endfor")] ++ [(.eof, "")])

section

variable {name second : String} {kind other : TokenKind}

theorem wordKind_core :
    wordKind (Core.registries.vocabulary {}) true "set" = .keyword ∧
      wordKind (Core.registries.vocabulary {}) true "for" = .keyword ∧
      wordKind (Core.registries.vocabulary {}) true "endfor" = .keyword ∧
      wordKind (Core.registries.vocabulary {}) false "in" = .operator ∧
      wordKind (Core.registries.vocabulary {}) false "xs" = .identifier := by
  rw [Core.vocabulary_registries]
  decide +kernel

theorem holds_mark (mark : Char) (known : mark ∈ ['(', ')', ','])
    (later : HoldsTag (Core.registries.vocabulary {}) false behind faces) :
    HoldsTag (Core.registries.vocabulary {}) false (mark :: behind) ((.punctuation, String.singleton mark) :: faces) := by
  simp only [List.mem_cons, List.not_mem_nil, or_false] at known
  have isMark : mark ∈ punctuation := by
    rcases known with rfl | rfl | rfl <;> simp [punctuation]
  refine later.mark rfl isMark fun rest => ?_
  rw [Core.vocabulary_registries]
  rcases known with rfl | rfl | rfl <;> rfl

theorem holds_iterable :
    HoldsTag (Core.registries.vocabulary {}) false
      (' ' :: ("in".toList ++ ' ' :: ("xs".toList ++ ' ' :: tagOpener.closing.toList)))
      [(.operator, "in"), (.identifier, "xs")] := by
  obtain ⟨-, -, -, isIn, isXs⟩ := wordKind_core
  refine .space (.word rfl (isWord_of_all rfl (by decide)) isIn (by decide) ?_)
  exact .space (.word rfl (isWord_of_all rfl (by decide)) isXs (by decide) (.space (.close rfl)))

theorem holds_iterable_bracketed :
    HoldsTag (Core.registries.vocabulary {}) false
      (' ' :: ("in".toList ++ ' ' :: ("xs".toList ++ ')' :: ' ' :: tagOpener.closing.toList)))
      [(.operator, "in"), (.identifier, "xs"), (.punctuation, ")")] := by
  obtain ⟨-, -, -, isIn, isXs⟩ := wordKind_core
  have closing : HoldsTag (Core.registries.vocabulary {}) false (')' :: ' ' :: tagOpener.closing.toList)
      [(.punctuation, ")")] := holds_mark ')' (by simp) (.space (.close rfl))
  refine .space (.word rfl (isWord_of_all rfl (by decide)) isIn (by decide) ?_)
  exact .space (.word rfl (isWord_of_all rfl (by decide)) isXs (by decide) closing)

theorem tokenize_loop {head : String} {faces : List (TokenKind × String)} (noFeed : '\n' ∉ head.toList)
    (holds : HoldsTag (Core.registries.vocabulary {}) false
      (' ' :: (head.toList ++ ' ' :: tagOpener.closing.toList)) faces) :
    tokenize (Core.registries.vocabulary {}) (loopSource head) =
      .ok (loopTokens faces) := by
  obtain ⟨-, isFor, isEndfor, -, -⟩ := wordKind_core
  have split : (loopSource head).toList = tagSource
      [' ' :: ("for".toList ++ ' ' :: (head.toList ++ ' ' :: tagOpener.closing.toList)),
        ' ' :: ("endfor".toList ++ ' ' :: tagOpener.closing.toList)] := by
    simp [loopSource, tagSource, tagOpener]
  have opening : HoldsTag (Core.registries.vocabulary {}) true
      (' ' :: ("for".toList ++ ' ' :: (head.toList ++ ' ' :: tagOpener.closing.toList))) ((.keyword, "for") :: faces) :=
    .space (.word rfl (isWord_of_all rfl (by decide)) isFor (by decide) holds)
  have ending : HoldsTag (Core.registries.vocabulary {}) true
      (' ' :: ("endfor".toList ++ ' ' :: tagOpener.closing.toList)) [(.keyword, "endfor")] :=
    .space (.word rfl (isWord_of_all rfl (by decide)) isEndfor (by decide) (.space (.close rfl)))
  have tokenized := tokenize_tags (Registries.standard_vocabulary _) split (by simp [loopSource, noFeed])
    (.cons ⟨opening, by simp⟩ (.cons ⟨ending, by simp⟩ .nil))
  simpa [loopTokens] using tokenized

section

variable (isWord : IsWord name) (ofKind : wordKind (Core.registries.vocabulary {}) false name = kind)

include isWord ofKind

theorem tokenize_assignment :
    tokenize (Core.registries.vocabulary {}) (assignmentSource name) = .ok (assignmentTokens (kind, name)) := by
  obtain ⟨isSet, -⟩ := wordKind_core
  have split : (assignmentSource name).toList = tagSource
      [' ' :: ("set".toList ++ ' ' :: (name.toList ++ ' ' :: '=' :: ' ' :: ("1".toList ++ ' ' :: tagOpener.closing.toList)))] := by
    simp [assignmentSource, tagSource, tagOpener]
  have one : HoldsTag (Core.registries.vocabulary {}) false (' ' :: ("1".toList ++ ' ' :: tagOpener.closing.toList))
      [(.literal, "1")] :=
    .space (.number rfl ⟨by decide, by simp⟩ isBlank_space (.space (.close rfl)))
  have value : HoldsTag (Core.registries.vocabulary {}) false
      (' ' :: '=' :: ' ' :: ("1".toList ++ ' ' :: tagOpener.closing.toList)) [(.punctuation, "="), (.literal, "1")] := by
    -- Two core symbols start with the sign, but no blank is behind it in them.
    refine .space (.mark rfl (by simp [punctuation]) (fun rest => ?_) one)
    rw [Core.vocabulary_registries]
    rfl
  have whole : HoldsTag (Core.registries.vocabulary {}) true _
      [(.keyword, "set"), (kind, name), (.punctuation, "="), (.literal, "1")] :=
    .space (.word rfl (isWord_of_all rfl (by decide)) isSet (by decide)
      (.space (.word rfl isWord ofKind (by decide) value)))
  have noFeed : '\n' ∉ name.toList := isWord.notMem (by decide)
  have tokenized := tokenize_tags (Registries.standard_vocabulary _) split (by simp [assignmentSource, noFeed])
    (.cons ⟨whole, by simp⟩ .nil)
  simpa [assignmentTokens] using tokenized

theorem tokenize_loop_value :
    tokenize (Core.registries.vocabulary {}) (loopSource (name ++ " in xs")) =
      .ok (loopTokens [(kind, name), (.operator, "in"), (.identifier, "xs")]) := by
  have noFeed : '\n' ∉ name.toList := isWord.notMem (by decide)
  refine tokenize_loop (by simp [noFeed]) ?_
  have holds := (holds_iterable.word rfl isWord ofKind (by decide)).space
  simpa using holds

theorem tokenize_loop_bracketed :
    tokenize (Core.registries.vocabulary {}) (loopSource ("(" ++ name ++ " in xs)")) =
      .ok (loopTokens [(.punctuation, "("), (kind, name), (.operator, "in"), (.identifier, "xs"), (.punctuation, ")")]) := by
  have noFeed : '\n' ∉ name.toList := isWord.notMem (by decide)
  refine tokenize_loop (by simp [noFeed]) ?_
  have names := holds_iterable_bracketed.word rfl isWord ofKind (by decide)
  have holds := (holds_mark '(' (by simp) names).space
  simpa using holds

theorem tokenize_loop_pair (second_word : IsWord second)
    (second_kind : wordKind (Core.registries.vocabulary {}) false second = other) :
    tokenize (Core.registries.vocabulary {}) (loopSource (name ++ ", " ++ second ++ " in xs")) =
      .ok (loopTokens [(kind, name), (.punctuation, ","), (other, second), (.operator, "in"), (.identifier, "xs")]) := by
  have noFeed : '\n' ∉ name.toList ∧ '\n' ∉ second.toList := ⟨isWord.notMem (by decide), second_word.notMem (by decide)⟩
  refine tokenize_loop (by simp [noFeed]) ?_
  have names := (holds_iterable.word rfl second_word second_kind (by decide)).space
  have comma := holds_mark ',' (by simp) names
  have holds := (comma.word rfl isWord ofKind (by decide)).space
  simpa using holds

end

end

end Source

namespace Parse

/-- A tag whose head has none of its forms is refused there, whatever comes behind it. -/
theorem template_misfit (s : Setting) (definition : TagDefinition) (start word first : Token) (rest : List Token)
    (isStart : start.kind = .tagStart) (isKeyword : word.kind = .keyword)
    (noBranch : s.registries.tags.isBlockKeyword word.value = false)
    {id : Nat} (known : s.registries.tags.lookup? word.value = some id) (numbered : s.registries.tags.get? id = some definition)
    (misfit : ∀ c : Cursor, c.tokens = first :: rest ++ [.eof 1] → fitsGrammar definition c = false) :
    template s (start :: word :: first :: rest ++ [.eof 1]) =
      .error ⟨.grammarMismatch definition.keyword definition.grammar first, first.line⟩ := by
  let whole : Cursor := { stream := .ofTokens (start :: word :: first :: rest ++ [.eof 1]) }
  let open_ : Cursor := whole.enter .text "template" 1
  have tokens : open_.tokens = start :: word :: first :: rest ++ [.eof 1] := tokens_ofTokens rfl
  have behindStart : open_.next.tokens = word :: first :: rest ++ [.eof 1] :=
    Cursor.tokens_next tokens (List.cons_ne_nil _ _)
  have behindWord : open_.next.next.tokens = first :: rest ++ [.eof 1] :=
    Cursor.tokens_next behindStart (List.cons_ne_nil _ _)
  have atStart : open_.current = start := Cursor.current_eq tokens
  have atWord : open_.next.current = word := Cursor.current_eq behindStart
  have atFirst : open_.next.next.current = first := Cursor.current_eq behindWord
  have resolving : resolveTag s open_.next = .ok (id, open_.next.next) := by
    rw [resolveTag, atWord]
    dsimp only
    rw [if_pos isKeyword, known]
  obtain ⟨budget, enough⟩ : ∃ budget, whole.budget = budget + 2 := ⟨whole.budget - 2, by rw [Cursor.budget]; omega⟩
  have tagging : tag s (budget + 1) open_ =
      .error ⟨.grammarMismatch definition.keyword definition.grammar first, first.line⟩ := by
    rw [tag, Cursor.expect_of_fits (fits_kind.mpr (atStart.symm ▸ isStart))]
    dsimp only [ok_bind]
    rw [resolving]
    dsimp only [ok_bind]
    rw [numbered]
    dsimp only
    rw [misfit _ behindWord, if_neg Bool.false_ne_true, atFirst]
  show body s whole.budget open_ >>= _ = _
  rw [enough, body, atStart, isStart]
  dsimp only
  rw [Cursor.ahead_one tokens, if_neg (by simp [noBranch]), tagging]
  rfl

/-- The tree of an assignment of the number one. -/
def assignmentOf (name : String) : Tree :=
  .root [.tag 4 [.data (.int 1) 1 {}] 1 (Annotations.set {} "name" (.text name))] 1 {}

/-- The tree of a loop over `xs` with an empty body. -/
def loopOf (targets : LoopVariables) : Tree :=
  .root [.tag 2 [.variable "xs" 1 {}, .block [] 1 {}] 1 (targets.notes false)] 1 {}

-- The names in the heads are left open below: the reader looks at the kind of a name but not at its letters.

section

open Source (onFirstLine tagFaces assignmentTokens loopTokens)

variable {kind other : TokenKind} {fallback : Option String} {name second : String}

theorem assignment_misfit :
    template ⟨Core.registries, fallback⟩ (assignmentTokens (.operator, name)) =
      .error ⟨.grammarMismatch "set" Core.setTag.grammar ⟨.operator, name, 1⟩, 1⟩ := by
  refine template_misfit ⟨Core.registries, fallback⟩ Core.setTag ⟨.tagStart, "", 1⟩ ⟨.keyword, "set", 1⟩
    ⟨.operator, name, 1⟩ (onFirstLine [(.punctuation, "="), (.literal, "1"), (.tagEnd, "")]) rfl rfl rfl rfl rfl
    fun c tokens => ?_
  rw [Bool.eq_false_iff, Ne, fitsGrammar_set, Cursor.current_eq tokens]
  rintro ⟨⟨⟩, -⟩

/-- The first three tokens decide whether the head of a loop has one of the forms. -/
theorem loop_misfit {one two three : TokenKind × String} {rest : List (TokenKind × String)}
    (noBracket : one = (.punctuation, "(") → two.1 ≠ .identifier)
    (noName : one.1 = .identifier → two.2 ≠ "in" ∧ three.1 ≠ .identifier) :
    template ⟨Core.registries, fallback⟩ (loopTokens (one :: two :: three :: rest)) =
      .error ⟨.grammarMismatch "for" Core.forTag.grammar ⟨one.1, one.2, 1⟩, 1⟩ := by
  have split : loopTokens (one :: two :: three :: rest) =
      ⟨.tagStart, "", 1⟩ :: ⟨.keyword, "for", 1⟩ :: ⟨one.1, one.2, 1⟩ :: (⟨two.1, two.2, 1⟩ :: ⟨three.1, three.2, 1⟩ ::
        onFirstLine (rest ++ (.tagEnd, "") :: tagFaces [(.keyword, "endfor")])) ++ [.eof 1] := by
    simp [loopTokens, tagFaces, onFirstLine, Token.eof]
  rw [split]
  refine template_misfit ⟨Core.registries, fallback⟩ Core.forTag _ _ _ _ rfl rfl rfl rfl rfl fun c tokens => ?_
  rw [Bool.eq_false_iff, Ne, fitsGrammar_for, Cursor.current_eq tokens, Cursor.ahead_one tokens, Cursor.ahead_two tokens]
  rintro (⟨opens, isName⟩ | ⟨isName, isIn⟩ | ⟨isName, -, another⟩)
  · obtain ⟨kind, text⟩ := Token.isPunctuation_iff.mp opens
    exact noBracket (Prod.ext kind text) isName
  · simp only [Token.isWord, Bool.and_eq_true, beq_iff_eq] at isIn
    exact (noName isName).1 isIn.2
  · exact (noName isName).2 another

/-- The tokens of a tag on the first line. -/
def firstLineTag (keyword : String) : TagTokens keyword :=
  { tagOf keyword with
    start := ⟨.tagStart, "", 1⟩
    finish := ⟨.tagEnd, "", 1⟩
    start_kind := rfl
    finish_kind := rfl }

theorem template_of_core {front : List Token} {trees : List Tree} (derived : Body Core.registries front trees) :
    template ⟨Core.registries, fallback⟩ (front ++ [.eof 1]) = .ok (.root trees 1 {}) :=
  template_of_derived ⟨rfl⟩ rfl derived

theorem reads_xs : ReadsWhole Core.registries [⟨.identifier, "xs", 1⟩] (.variable "xs" 1 {}) :=
  ⟨_, rfl, rfl⟩

theorem assignment_read :
    template ⟨Core.registries, fallback⟩ (assignmentTokens (.identifier, name)) = .ok (assignmentOf name) := by
  have one : ReadsWhole Core.registries [⟨.literal, "1", 1⟩] (.data (.int 1) 1 {}) := ⟨_, rfl, rfl⟩
  exact template_of_core (.cons (.assignment (firstLineTag "set") rfl rfl one) .nil)

theorem loop_read {head : List (TokenKind × String)} {targets : LoopVariables}
    (isHead : LoopHead Core.registries (onFirstLine head) targets (.variable "xs" 1 {})) :
    template ⟨Core.registries, fallback⟩ (loopTokens head) = .ok (loopOf targets) := by
  have tokens : loopTokens head = ((firstLineTag "for").around (onFirstLine head) ++ [] ++
      (firstLineTag forWords.ending).around [] ++ []) ++ [.eof 1] := by
    simp [loopTokens, tagFaces, onFirstLine, TagTokens.around, firstLineTag, tagOf, Token.eof, forWords]
  rw [tokens]
  exact template_of_core (.cons (.loop (firstLineTag "for") isHead .nil (.ending (firstLineTag forWords.ending))) .nil)

variable (isOperator isOther : Bool)

/-- What a name is, by whether it is a word of an operator. -/
def nameKind (isOperator : Bool) : TokenKind :=
  if isOperator then .operator else .identifier

theorem assignment_reading :
    template ⟨Core.registries, fallback⟩ (assignmentTokens (nameKind isOperator, name)) =
      if isOperator then .error ⟨.grammarMismatch "set" Core.setTag.grammar ⟨.operator, name, 1⟩, 1⟩
      else .ok (assignmentOf name) := by
  cases isOperator with
  | false => exact assignment_read
  | true => exact assignment_misfit

theorem loop_reading :
    template ⟨Core.registries, fallback⟩ (loopTokens [(nameKind isOperator, name), (.operator, "in"), (.identifier, "xs")]) =
      if isOperator then .error ⟨.grammarMismatch "for" Core.forTag.grammar ⟨.operator, name, 1⟩, 1⟩
      else .ok (loopOf ⟨none, name⟩) := by
  cases isOperator with
  | false => exact loop_read (.value rfl rfl reads_xs)
  | true => exact loop_misfit (by simp) (by simp [nameKind])

theorem loop_bracketed_reading :
    template ⟨Core.registries, fallback⟩ (loopTokens [(.punctuation, "("), (nameKind isOperator, name), (.operator, "in"),
        (.identifier, "xs"), (.punctuation, ")")]) =
      if isOperator then .error ⟨.grammarMismatch "for" Core.forTag.grammar ⟨.punctuation, "(", 1⟩, 1⟩
      else .ok (loopOf ⟨none, name⟩) := by
  cases isOperator with
  | false => exact loop_read (.bracketedValue rfl rfl rfl reads_xs rfl)
  | true => exact loop_misfit (by simp [nameKind]) (by simp)

theorem loop_pair_reading :
    template ⟨Core.registries, fallback⟩ (loopTokens [(nameKind isOperator, name), (.punctuation, ","),
        (nameKind isOther, second), (.operator, "in"), (.identifier, "xs")]) =
      if isOperator || isOther then
        .error ⟨.grammarMismatch "for" Core.forTag.grammar ⟨nameKind isOperator, name, 1⟩, 1⟩
      else .ok (loopOf ⟨some name, second⟩) := by
  cases isOperator with
  | true => exact loop_misfit (by simp [nameKind]) (by simp [nameKind])
  | false =>
      cases isOther with
      | false => exact loop_read (.pair rfl rfl rfl rfl reads_xs)
      | true => exact loop_misfit (by simp [nameKind]) (by simp [nameKind])

end

end Parse

namespace Compiler

open Source Parse

variable {config : Config} {loader : Loader} {c : Compiler} {template name second : String}

/-- A word is read as a variable, where an expression prints it. -/
structure ReadsName (c : Compiler) (template word : String) : Prop where
  isWord : IsWord word
  reads : c.parse template ("\x7b\x7b " ++ word ++ " \x7d\x7d") =
    .ok (.ofTree (.root [.tag 0 [.variable word 1 {}] 1 {}] 1 {}))

/-- The failure of a tag whose head has none of its forms, at the token in front. -/
def misfit (template : String) (definition : TagDefinition) (front : Token) : Except TemplateError Arena :=
  .error (.parse template ⟨.grammarMismatch definition.keyword definition.grammar front, front.line⟩)

/-- A compiler without further extensions has the core registries and their vocabulary. -/
theorem core_of_build (built : Compiler.build config loader [] = .ok c) (plain : config.delimiters = {}) :
    c.registries = Core.registries ∧ c.vocabulary = Core.registries.vocabulary {} := by
  obtain ⟨-, registries, registered, rfl⟩ := build_eq_ok built
  obtain rfl := Registries.eq_core_of_build registered
  exact ⟨rfl, by rw [plain]⟩

theorem parse_of_tokenize {source : String} {tokens : List Token} (built : Compiler.build config loader [] = .ok c)
    (plain : config.delimiters = {}) (tokenized : Source.tokenize (Core.registries.vocabulary {}) source = .ok tokens) :
    c.parse template source =
      match Parse.template ⟨Core.registries, c.config.fallbackTag⟩ tokens with
      | .ok tree => .ok (.ofTree tree)
      | .error e => .error (.parse template e) := by
  obtain ⟨registries, vocabulary⟩ := core_of_build built plain
  have parsed := parse_of_lexed (c := c) (vocabulary ▸ tokenized) template
  rw [registries] at parsed
  exact parsed

/-- The tokens of an expression of one word. -/
def wordTokens (kind : TokenKind) (word : String) : List Token :=
  onFirstLine [(.expressionStart, ""), (kind, word), (.expressionEnd, ""), (.eof, "")]

theorem word_read {fallback : Option String} {kind : TokenKind} {word : String} {tree : Tree}
    (whole : ReadsWhole Core.registries [⟨kind, word, 1⟩] tree) :
    Parse.template ⟨Core.registries, fallback⟩ (wordTokens kind word) = .ok (.root [.tag 0 [tree] 1 {}] 1 {}) := by
  let start : Token := ⟨.expressionStart, "", 1⟩
  let finish : Token := ⟨.expressionEnd, "", 1⟩
  have isStart : start.kind = .expressionStart := rfl
  have isEnd : finish.kind = .expressionEnd := rfl
  exact template_of_core (.cons (.output isStart whole isEnd) .nil)

theorem ReadsName.noLiteral (readsName : c.ReadsName template name) (built : Compiler.build config loader [] = .ok c)
    (plain : config.delimiters = {}) : name ∉ literalWords := by
  have tokenized : ∀ word ∈ literalWords,
      Source.tokenize (Core.registries.vocabulary {}) ("\x7b\x7b " ++ word ++ " \x7d\x7d") =
        .ok (wordTokens .literal word) := by
    rw [Core.vocabulary_registries]
    decide +kernel
  have isValue : ∀ word ∈ literalWords, ∃ value, ReadsWhole Core.registries [⟨.literal, word, 1⟩] (.data value 1 {}) := by
    intro word member
    simp only [literalWords, List.mem_cons, List.not_mem_nil, or_false] at member
    rcases member with rfl | rfl | rfl
    · exact ⟨.bool true, _, rfl, rfl⟩
    · exact ⟨.bool false, _, rfl, rfl⟩
    · exact ⟨.null, _, rfl, rfl⟩
  intro member
  obtain ⟨value, whole⟩ := isValue name member
  have reads := readsName.reads
  rw [parse_of_tokenize built plain (tokenized name member), word_read whole] at reads
  have trees : some (Tree.root [.tag 0 [.data value 1 {}] 1 {}] 1 {}) =
      some (.root [.tag 0 [.variable name 1 {}] 1 {}] 1 {}) := congrArg Arena.toTree? (Except.ok.inj reads)
  simp at trees

/-- With the core registries and the default delimiters: a word that is read as a variable can be bound if it is no word of
an operator. Otherwise the tag is refused as one that has none of its forms, at the token in front of its head, and so is a
loop of which the second name is such a word. -/
theorem bound_unless_operator (built : Compiler.build config loader [] = .ok c) (plain : config.delimiters = {})
    (readsName : c.ReadsName template name) (readsSecond : c.ReadsName template second) :
    let isOperator := c.vocabulary.isOperatorWord
    let front : Token := ⟨wordKind c.vocabulary false name, name, 1⟩
    (c.parse template (assignmentSource name) =
        if isOperator name then misfit template Core.setTag front else .ok (.ofTree (assignmentOf name))) ∧
      (c.parse template (loopSource (name ++ " in xs")) =
        if isOperator name then misfit template Core.forTag front else .ok (.ofTree (loopOf ⟨none, name⟩))) ∧
      (c.parse template (loopSource ("(" ++ name ++ " in xs)")) =
        if isOperator name then misfit template Core.forTag ⟨.punctuation, "(", 1⟩
        else .ok (.ofTree (loopOf ⟨none, name⟩))) ∧
      c.parse template (loopSource (name ++ ", " ++ second ++ " in xs")) =
        if isOperator name || isOperator second then misfit template Core.forTag front
        else .ok (.ofTree (loopOf ⟨some name, second⟩)) := by
  obtain ⟨-, vocabulary⟩ := core_of_build built plain
  have kind {word : String} (reads : c.ReadsName template word) :
      wordKind (Core.registries.vocabulary {}) false word = nameKind (c.vocabulary.isOperatorWord word) := by
    simp [wordKind, nameKind, reads.noLiteral built plain, vocabulary]
  have isWord := readsName.isWord
  dsimp only
  rw [parse_of_tokenize built plain (tokenize_assignment isWord (kind readsName)),
    parse_of_tokenize built plain (tokenize_loop_value isWord (kind readsName)),
    parse_of_tokenize built plain (tokenize_loop_bracketed isWord (kind readsName)),
    parse_of_tokenize built plain (tokenize_loop_pair isWord (kind readsName) readsSecond.isWord (kind readsSecond)),
    assignment_reading, loop_reading, loop_bracketed_reading, loop_pair_reading, vocabulary, kind readsName, vocabulary]
  cases (Core.registries.vocabulary {}).isOperatorWord name with
  | true => exact ⟨rfl, rfl, rfl, rfl⟩
  | false =>
      refine ⟨rfl, rfl, rfl, ?_⟩
      cases (Core.registries.vocabulary {}).isOperatorWord second with
      | true => rfl
      | false => rfl

-- The words `even` and `by` are read as variables, but neither can be bound in front.

theorem readsName_of_tokens (built : Compiler.build config loader [] = .ok c) (plain : config.delimiters = {})
    (isWord : IsWord name) {kind : TokenKind}
    (tokenized : Source.tokenize (Core.registries.vocabulary {}) ("\x7b\x7b " ++ name ++ " \x7d\x7d") =
      .ok (wordTokens kind name))
    (whole : ReadsWhole Core.registries [⟨kind, name, 1⟩] (.variable name 1 {})) : c.ReadsName template name := by
  refine ⟨isWord, ?_⟩
  rw [parse_of_tokenize built plain tokenized, word_read whole]

theorem reads_samples :
    ReadsWhole Core.registries [⟨.identifier, "x", 1⟩] (.variable "x" 1 {}) ∧
      ReadsWhole Core.registries [⟨.operator, "even", 1⟩] (.variable "even" 1 {}) ∧
      ReadsWhole Core.registries [⟨.operator, "by", 1⟩] (.variable "by" 1 {}) :=
  ⟨⟨_, rfl, rfl⟩, ⟨_, rfl, rfl⟩, _, rfl, rfl⟩

theorem readsName_samples :
    ∃ c, Compiler.build {} (.ofList []) [] = .ok c ∧ c.ReadsName "page" "x" ∧ c.ReadsName "page" "even" ∧
      c.ReadsName "page" "by" := by
  have built := build_default (.ofList [])
  have tokenized : Source.tokenize (Core.registries.vocabulary {}) ("\x7b\x7b " ++ "x" ++ " \x7d\x7d") =
        .ok (wordTokens .identifier "x") ∧
      ∀ word ∈ ["even", "by"], Source.tokenize (Core.registries.vocabulary {}) ("\x7b\x7b " ++ word ++ " \x7d\x7d") =
        .ok (wordTokens .operator word) := by
    rw [Core.vocabulary_registries]
    decide +kernel
  obtain ⟨readsX, readsEven, readsBy⟩ := reads_samples
  refine ⟨_, built, ?_, ?_, ?_⟩
  · exact readsName_of_tokens built rfl (isWord_of_all rfl (by decide)) tokenized.1 readsX
  · exact readsName_of_tokens built rfl (isWord_of_all rfl (by decide)) (tokenized.2 "even" (by simp)) readsEven
  · exact readsName_of_tokens built rfl (isWord_of_all rfl (by decide)) (tokenized.2 "by" (by simp)) readsBy

theorem isOperatorWord_samples :
    (Core.registries.vocabulary {}).isOperatorWord "x" = false ∧
      (Core.registries.vocabulary {}).isOperatorWord "even" = true := by
  rw [Core.vocabulary_registries]
  decide +kernel

/-- A name is bound, and one beside it is not. -/
theorem even_unbound_beside_x :
    ∃ c, Compiler.build {} (.ofList []) [] = .ok c ∧ ({} : Config).delimiters = {} ∧ c.ReadsName "page" "x" ∧
      c.ReadsName "page" "even" ∧
      c.parse "page" "\x7b% set x = 1 %\x7d" = .ok (.ofTree (assignmentOf "x")) ∧
      c.parse "page" "\x7b% for (x in xs) %\x7d\x7b% endfor %\x7d" = .ok (.ofTree (loopOf ⟨none, "x"⟩)) ∧
      c.parse "page" "\x7b% for x, even in xs %\x7d\x7b% endfor %\x7d" =
        misfit "page" Core.forTag ⟨.identifier, "x", 1⟩ := by
  obtain ⟨c, built, readsX, readsEven, -⟩ := readsName_samples
  have plain : ({} : Config).delimiters = {} := rfl
  obtain ⟨assigned, -, looped, paired⟩ := bound_unless_operator built plain readsX readsEven
  obtain ⟨-, vocabulary⟩ := core_of_build built plain
  have kind : wordKind (Core.registries.vocabulary {}) false "x" = .identifier := by
    rw [Core.vocabulary_registries]
    decide +kernel
  rw [vocabulary, isOperatorWord_samples.1] at assigned looped
  rw [vocabulary, isOperatorWord_samples.1, isOperatorWord_samples.2, kind] at paired
  exact ⟨c, built, plain, readsX, readsEven, assigned, looped, paired⟩

/-- Both words are read as variables, but no head takes one of them in front or as the second name without brackets; in
brackets the second name can be such a word. -/
theorem even_and_by_unbound :
    ∃ c, Compiler.build {} (.ofList []) [] = .ok c ∧ c.ReadsName "page" "even" ∧ c.ReadsName "page" "by" ∧
      (∀ source ∈ ["\x7b% set even = 1 %\x7d", "\x7b% for by in xs %\x7d\x7b% endfor %\x7d",
          "\x7b% for (by in xs) %\x7d\x7b% endfor %\x7d", "\x7b% for even, by in xs %\x7d\x7b% endfor %\x7d",
          "\x7b% for x, by in xs %\x7d\x7b% endfor %\x7d"],
        ∃ e, c.parse "page" source = .error (.parse "page" e) ∧ e.code.number = "E1010") ∧
      c.parse "page" "\x7b% for (x, by in xs) %\x7d\x7b% endfor %\x7d" = .ok (.ofTree (loopOf ⟨some "x", "by"⟩)) := by
  obtain ⟨c, built, -, readsEven, readsBy⟩ := readsName_samples
  have noFallback : c.config.fallbackTag = none := by
    obtain ⟨-, registries, -, rfl⟩ := build_eq_ok built
    rfl
  have refused : ∀ source ∈ ["\x7b% set even = 1 %\x7d", "\x7b% for by in xs %\x7d\x7b% endfor %\x7d",
      "\x7b% for (by in xs) %\x7d\x7b% endfor %\x7d", "\x7b% for even, by in xs %\x7d\x7b% endfor %\x7d",
      "\x7b% for x, by in xs %\x7d\x7b% endfor %\x7d"],
      ((Source.tokenize (Core.registries.vocabulary {}) source).toOption.bind fun tokens =>
        match Parse.template ⟨Core.registries, none⟩ tokens with
        | .ok _ => none
        | .error e => some e.code.number) = some "E1010" := by
    rw [Core.vocabulary_registries]
    decide +kernel
  have lexed : Source.tokenize (Core.registries.vocabulary {}) "\x7b% for (x, by in xs) %\x7d\x7b% endfor %\x7d" =
      .ok (loopTokens [(.punctuation, "("), (.identifier, "x"), (.punctuation, ","), (.operator, "by"), (.operator, "in"),
        (.identifier, "xs"), (.punctuation, ")")]) := by
    rw [Core.vocabulary_registries]
    decide +kernel
  have read : Parse.template ⟨Core.registries, none⟩ (loopTokens [(.punctuation, "("), (.identifier, "x"),
      (.punctuation, ","), (.operator, "by"), (.operator, "in"), (.identifier, "xs"), (.punctuation, ")")]) =
        .ok (loopOf ⟨some "x", "by"⟩) :=
    loop_read (.bracketedPair rfl rfl rfl (.inr ⟨rfl, by decide⟩) rfl reads_xs rfl)
  refine ⟨c, built, readsEven, readsBy, fun source member => ?_, ?_⟩
  · obtain ⟨tokens, tokenized, code⟩ := Option.bind_eq_some_iff.mp (refused source member)
    rw [parse_of_tokenize built rfl (toOption_eq_some.mp tokenized), noFallback]
    cases outcome : Parse.template ⟨Core.registries, none⟩ tokens with
    | ok tree => simp [outcome] at code
    | error e => exact ⟨e, rfl, by simpa [outcome] using code⟩
  · rw [parse_of_tokenize built rfl lexed, noFallback, read]

end Compiler

end Templating
