import Templating.Proofs.TokenItems
import Templating.Proofs.Registration

/-! # Writing aliases

The words of an alias are what stands between its blanks, and a tokenizer has rules of its own for what a word is. So an
alias of a registered operator can be written in an expression exactly if each of its words is one token there: a word that
starts like one has to go on like one, and another must not start like a number, a text in quotes or the end of the
expression.
-/

namespace Templating

namespace Text

theorem mem_splitWords {isSeparator : Char → Bool} {word text : List Char} (whole : ∀ c ∈ word, isSeparator c = false) :
    ∀ piece ∈ splitWords isSeparator word text, piece ≠ [] ∧ ∀ c ∈ piece, isSeparator c = false := by
  have ended {word : List Char} (whole : ∀ c ∈ word, isSeparator c = false) (inhabited : ¬ word.isEmpty = true) :
      word.reverse ≠ [] ∧ ∀ c ∈ word.reverse, isSeparator c = false :=
    ⟨by simpa using inhabited, fun c member => whole c (List.mem_reverse.mp member)⟩
  induction text generalizing word with
  | nil =>
      rw [splitWords]
      split
      · exact List.forall_mem_nil _
      · rename_i inhabited
        exact List.forall_mem_singleton.mpr (ended whole inhabited)
  | cons c text ih =>
      rw [splitWords]
      split
      · split
        · exact ih (List.forall_mem_nil _)
        · rename_i inhabited
          exact List.forall_mem_cons.mpr ⟨ended whole inhabited, ih (List.forall_mem_nil _)⟩
      · rename_i goesOn
        exact ih (List.forall_mem_cons.mpr ⟨Bool.eq_false_iff.mpr goesOn, whole⟩)

theorem mem_words {text word : String} (member : word ∈ words text) :
    word ≠ "" ∧ ∀ c ∈ word.toList, isBlank c = false := by
  obtain ⟨piece, among, rfl⟩ := List.mem_map.mp member
  obtain ⟨inhabited, unbroken⟩ := mem_splitWords (List.forall_mem_nil _) piece among
  rw [String.toList_ofList]
  exact ⟨by simpa using inhabited, unbroken⟩

end Text

namespace Source

/-- What closes an expression. -/
def expressionCloser : String :=
  ({} : Delimiters).expression.closing

/-- What opens an expression. -/
def expressionOpener : Opener :=
  ⟨.expression, ({} : Delimiters).expression.opening, expressionCloser⟩

/-- A text that is one operator in an expression, given that some alias has it. -/
inductive Writable (value : String) : Prop where
  | word (word : IsWord value)
  | symbol {first : Char} {more : List Char} (shape : value.toList = first :: more) (noWord : startsWord first = false)
      (noDigit : first.isDigit = false) (noQuote : first ≠ '"' ∧ first ≠ '\'')
      (goesOn : ¬ ClosesAt {} expressionCloser value.toList)

/-- A vocabulary knows a word of an alias. -/
structure Knows (v : Vocabulary) (word : String) : Prop where
  inhabited : word ≠ ""
  unbroken : ∀ c ∈ word.toList, Text.isBlank c = false
  noLiteral : word ∉ literalWords
  known : if isWordLike word then v.isOperatorWord word = true else word ∈ v.symbols

/-- A vocabulary with the standard delimiters, in which the symbols are in order and have no blanks. -/
structure Standard (v : Vocabulary) : Prop where
  plain : v.delimiters = {}
  sorted : v.symbols.Pairwise (symbolBefore · ·)
  unbroken : ∀ symbol ∈ v.symbols, ∀ c ∈ symbol.toList, Text.isBlank c = false

variable {v : Vocabulary} {word : String} {words : List String} {blank first : Char} {more rest : List Char} {line : Nat}

theorem Standard.isClose (standard : Standard v) :
    expressionCloser ∈ [v.delimiters.tag.closing, v.delimiters.expression.closing] := by
  rw [standard.plain]
  exact List.mem_cons_of_mem _ List.mem_cons_self

theorem closesAt_before_blank (isBlank : Text.isBlank blank = true) :
    ClosesAt {} expressionCloser (word.toList ++ blank :: rest) ↔ ClosesAt {} expressionCloser word.toList := by
  have unbroken : ∀ c ∈ ({} : Delimiters).trim :: expressionCloser.toList, Text.isBlank c = false :=
    forall_of_any (by decide)
  constructor
  · exact Or.imp (prefix_before_blank (fun c member => unbroken c (List.mem_cons_of_mem _ member)) isBlank)
      (prefix_before_blank unbroken isBlank)
  · exact Or.imp (·.trans (List.prefix_append _ _)) (·.trans (List.prefix_append _ _))

theorem Writable.readsIn (writable : Writable word) (standard : Standard v) (knows : Knows v word) :
    ReadsIn v expressionCloser false word.toList .operator word := by
  have known := knows.known
  intro blank rest isBlank
  cases writable with
  | word isWord =>
      obtain ⟨start, _, shape, starts, -⟩ := id isWord
      rw [isWordLike_eq shape, if_pos starts] at known
      have kind : wordKind v false word = .operator := by simp [wordKind, known, knows.noLiteral]
      obtain ⟨first, more, split, notBlank, goesOn, read⟩ := readsBack_word standard.plain isWord kind blank rest isBlank
      exact ⟨first, more, split, notBlank, goesOn _ standard.isClose, read⟩
  | @symbol first more shape noWord noDigit noQuote goesOn =>
      rw [isWordLike_eq shape, noWord, if_neg Bool.false_ne_true] at known
      refine ⟨first, more ++ blank :: rest, by rw [shape, List.cons_append], knows.unbroken first (by simp [shape]), ?_,
        fun line => ⟨0, ?_⟩⟩
      · rw [standard.plain, ← List.cons_append, ← shape, closesAt_before_blank isBlank]
        exact goesOn
      · exact readToken_symbol standard.unbroken standard.sorted known shape noWord noDigit noQuote isBlank rest line

theorem writable_of_readToken {lexeme : Lexeme} (shape : word.toList = first :: more)
    (goesOn : ¬ ClosesAt {} expressionCloser word.toList)
    (read : readToken v false line first (more ++ rest) = .ok lexeme)
    (isOperator : lexeme.token.face = (.operator, word)) : Writable word := by
  simp only [readToken] at read
  split at read
  · split at read
    · cases read
      cases isOperator
    · cases read
  rename_i noQuote
  split at read
  · cases read
    cases isOperator
  rename_i noDigit
  split at read
  · rename_i starts
    cases read
    have value : String.ofList (first :: (more ++ rest).takeWhile continuesWord) = word := congrArg Prod.snd isOperator
    rw [← value]
    exact .word ⟨first, _, String.toList_ofList, starts, fun c member => List.mem_takeWhile_imp member⟩
  · rename_i noWord
    exact .symbol shape (Bool.eq_false_iff.mpr noWord) (Bool.eq_false_iff.mpr noDigit) (not_or.mp noQuote) goesOn

/-- Words with a blank behind each, and what closes their expression. -/
def spaced (words : List String) : List Char :=
  words.flatMap (fun word => word.toList ++ [' ']) ++ expressionCloser.toList

/-- The faces of words that are operators. -/
def operatorFaces (words : List String) : List (TokenKind × String) :=
  words.map fun word => (.operator, word)

theorem spaced_cons (word : String) (words : List String) :
    spaced (word :: words) = word.toList ++ ' ' :: spaced words := by
  simp [spaced]

theorem isBlank_space : Text.isBlank ' ' = true := by
  decide

theorem readRegion_spaced (standard : Standard v) (knows : ∀ word ∈ words, Knows v word)
    (writable : ∀ word ∈ words, Writable word) (closer : TokenKind) (unterminated : LexError) :
    ∀ (line : Nat) (gap : List Char), (∀ c ∈ gap, Text.isBlank c = true) →
      ∃ done, readRegion wordBehind v expressionCloser closer unterminated false line (gap ++ spaced words) = .ok done ∧
        done.tokens.map Token.face = operatorFaces words ++ [(closer, "")] ∧ done.trims = false ∧ done.rest = [] := by
  induction words with
  | nil =>
      intro line gap blanks
      obtain ⟨line', read⟩ := readRegion_end standard.plain closer unterminated standard.isClose false line blanks []
      rw [List.append_nil] at read
      exact ⟨_, read, rfl, rfl, rfl⟩
  | cons word words ih =>
      intro line gap blanks
      obtain ⟨known, others⟩ := List.forall_mem_cons.mp knows
      obtain ⟨one, more⟩ := List.forall_mem_cons.mp writable
      obtain ⟨line', line'', step⟩ := (one.readsIn standard known).readRegion closer unterminated line blanks isBlank_space
        (spaced words)
      obtain ⟨done, read, faces, untrimmed, left⟩ := ih others more line'' [' '] (by simp [isBlank_space])
      refine ⟨{ done with tokens := ⟨.operator, word, line'⟩ :: done.tokens }, ?_, ?_, untrimmed, left⟩
      · rw [spaced_cons, step, ← List.singleton_append, read]
        rfl
      · rw [List.map_cons, faces]
        rfl

theorem writable_of_readRegion (standard : Standard v) (knows : ∀ word ∈ words, Knows v word) {closer : TokenKind}
    (closes : closer ≠ .operator) {unterminated : LexError} {later : List (TokenKind × String)} :
    ∀ (line : Nat) (gap : List Char) (done : RegionEnd), (∀ c ∈ gap, Text.isBlank c = true) →
      readRegion wordBehind v expressionCloser closer unterminated false line (gap ++ spaced words) = .ok done →
      done.tokens.map Token.face <+: operatorFaces words ++ later → ∀ word ∈ words, Writable word := by
  induction words with
  | nil => exact fun _ _ _ _ _ _ => List.forall_mem_nil _
  | cons word words ih =>
      intro line gap done blanks read faces
      obtain ⟨known, others⟩ := List.forall_mem_cons.mp knows
      obtain ⟨first, more, shape⟩ := List.exists_cons_of_ne_nil (mt String.toList_eq_nil_iff.mp known.inhabited)
      have notBlank := known.unbroken first (by simp [shape])
      rw [spaced_cons, shape, List.cons_append] at read
      have start : Text.trimStart (gap ++ first :: (more ++ ' ' :: spaced words)) = first :: (more ++ ' ' :: spaced words) :=
        (trimStart_append blanks).trans (trimStart_of_head notBlank)
      cases regionStep_of_readRegion read with
      | closed => exact absurd (congrArg Prod.fst (List.cons_prefix_cons.mp faces).1) closes
      | token here goesOn one _ next =>
          rw [start] at here
          cases here
          obtain ⟨same, behind⟩ := List.cons_prefix_cons.mp faces
          rw [standard.plain, ← List.cons_append, ← shape, closesAt_before_blank isBlank_space] at goesOn
          have writable := writable_of_readToken shape goesOn one same
          -- So the token is exactly the word, and the others are read from behind it.
          obtain ⟨first, _, split, -, -, again⟩ := writable.readsIn standard known ' ' (spaced words) isBlank_space
          rw [shape, List.cons_append] at split
          cases split
          obtain ⟨lines, exactly⟩ := again _
          rw [one] at exactly
          cases exactly
          exact List.forall_mem_cons.mpr ⟨writable, ih others _ [' '] _ (by simp [isBlank_space]) next behind⟩

/-- An expression of words with one space between neighbours. -/
def wordSource (words : List String) : String :=
  "\x7b\x7b " ++ String.intercalate " " words ++ " \x7d\x7d"

theorem toList_wordSource (words : List String) :
    ∃ gap, (∀ c ∈ ' ' :: gap, Text.isBlank c = true) ∧
      (wordSource words).toList = expressionOpener.opening.toList ++ (' ' :: gap ++ spaced words) := by
  have joined : ∀ word words, (String.intercalate " " (word :: words)).toList ++ ' ' :: expressionCloser.toList =
      spaced (word :: words) := by
    intro word words
    induction words generalizing word with
    | nil => simp [spaced]
    | cons next words ih => simp [spaced_cons word, ← ih next]
  cases words with
  | nil => exact ⟨[' '], by simp [isBlank_space], by decide⟩
  | cons word words =>
      refine ⟨[], by simp [isBlank_space], ?_⟩
      rw [← joined, wordSource, String.toList_append, String.toList_append, List.append_assoc]
      rfl

/-- The opener of an expression at the start of a source is the one that is chosen. -/
theorem chooseOpener_expression (plain : v.delimiters = {}) (inside : List Char) :
    chooseOpener ((openers v.delimiters).map fun opener => { opener := opener }) 0
        (expressionOpener.opening.toList ++ inside) = some (0, expressionOpener) := by
  have member : expressionOpener ∈ openers {} := List.mem_cons_of_mem _ List.mem_cons_self
  obtain ⟨opens, only⟩ := (clear_nil _ _).opens member inside
  rw [plain]
  exact (tracks_start _ _).chooseOpener_eq_some opens only

theorem tokenize_wordSource (standard : Standard v) (knows : ∀ word ∈ words, Knows v word)
    (writable : ∀ word ∈ words, Writable word) :
    ∃ tokens, tokenize v (wordSource words) = .ok tokens ∧
      tokens.map Token.face =
        (.expressionStart, "") :: operatorFaces words ++ [(.expressionEnd, ""), (.eof, "")] := by
  obtain ⟨gap, blanks, source⟩ := toList_wordSource words
  have some_char : expressionOpener.opening.toList ≠ [] := by decide
  have unmarked : (' ' :: gap ++ spaced words).head? ≠ some v.delimiters.trim := by
    rw [standard.plain]
    exact Option.some_inj.not.mpr (by decide)
  have region : ∀ unterminated line, ∃ done,
      readSection wordBehind v expressionOpener unterminated line (' ' :: gap ++ spaced words) = .ok done ∧
        done.tokens.map Token.face = (.expressionStart, "") :: operatorFaces words ++ [(.expressionEnd, "")] ∧
        done.trims = false ∧ done.rest = [] := by
    intro unterminated line
    obtain ⟨done, read, faces, untrimmed, left⟩ :=
      readRegion_spaced standard knows writable .expressionEnd unterminated line (' ' :: gap) blanks
    refine ⟨{ done with tokens := ⟨.expressionStart, "", line⟩ :: done.tokens }, ?_, ?_, untrimmed, left⟩
    · rw [readSection, expressionOpener, read]
      rfl
    · rw [List.map_cons, faces]
      rfl
  have ending : ∀ finders position line, Tracks v.delimiters finders position [] →
      ∃ tokens, scan wordBehind v finders position line false [] = .ok tokens ∧ tokens.map Token.face = [(.eof, "")] := by
    intro finders position line _
    exact ⟨[.eof line], by rw [scan]; rfl, rfl⟩
  have tracks := tracks_start v.delimiters ([] ++ (expressionOpener.opening.toList ++ (' ' :: gap ++ spaced words)))
  have chosen := chooseOpener_expression standard.plain (' ' :: gap ++ spaced words)
  obtain ⟨tokens, scanned, faces⟩ : ∃ tokens, scan wordBehind v _ 0 1 false ([] ++ _) = .ok tokens ∧
      tokens.map Token.face = textFaces [] ++ _ ++ [(.eof, "")] :=
    scan_region tracks chosen some_char unmarked region List.nil_suffix ending
  refine ⟨tokens, ?_, ?_⟩
  · rw [tokenize, tokenizeBy, source]
    exact scanned
  · rw [faces]
    simp [textFaces]

/-- An expression at the start of a source is read from behind its opener, if the source is tokenized. -/
theorem exists_readRegion {source : String} {inside : List Char} {tokens : List Token} (plain : v.delimiters = {})
    (shape : source.toList = expressionOpener.opening.toList ++ ' ' :: inside)
    (tokenized : tokenize v source = .ok tokens) :
    ∃ unterminated line done later,
      readRegion wordBehind v expressionCloser .expressionEnd unterminated false line (' ' :: inside) = .ok done ∧
        tokens = ⟨.expressionStart, "", line⟩ :: done.tokens ++ later := by
  have unmarked : (' ' == v.delimiters.trim) = false := by
    rw [plain]
    decide
  rw [tokenize, tokenizeBy, shape, scan, if_neg (by simp), chooseOpener_expression plain] at tokenized
  dsimp only at tokenized
  rw [Nat.sub_self, List.take_zero, List.drop_zero, ← String.length_toList, List.drop_left, List.head?_cons,
    Option.some_beq_some, unmarked, if_neg Bool.false_ne_true] at tokenized
  split at tokenized
  · cases tokenized
  rename_i done read
  obtain ⟨inner, region, ⟨⟩⟩ := bind_eq_ok.mp read
  split at tokenized
  · obtain ⟨later, -, ⟨⟩⟩ := bind_eq_ok.mp tokenized
    exact ⟨_, _, inner, later, region, rfl⟩
  · cases tokenized
    exact ⟨_, _, inner, [], region, (List.append_nil _).symm⟩

/-- The words of an expression come out as operators exactly if all of them are writable. -/
theorem tokenize_wordSource_iff (standard : Standard v) (knows : ∀ word ∈ words, Knows v word) :
    (∃ tokens, tokenize v (wordSource words) = .ok tokens ∧
      tokens.map Token.face =
        (.expressionStart, "") :: operatorFaces words ++ [(.expressionEnd, ""), (.eof, "")]) ↔
      ∀ word ∈ words, Writable word := by
  refine ⟨?_, tokenize_wordSource standard knows⟩
  rintro ⟨tokens, tokenized, faces⟩
  obtain ⟨gap, blanks, source⟩ := toList_wordSource words
  obtain ⟨unterminated, line, done, later, read, rfl⟩ := exists_readRegion standard.plain source tokenized
  rw [List.cons_append, List.map_cons, List.map_append] at faces
  have front : done.tokens.map Token.face <+: operatorFaces words ++ [(.expressionEnd, ""), (.eof, "")] :=
    ⟨_, (List.cons.inj faces).2⟩
  have closes : TokenKind.expressionEnd ≠ .operator := by decide
  exact writable_of_readRegion standard knows closes line (' ' :: gap) done blanks read front

end Source

namespace OperatorRegistry

variable {registry grown : OperatorRegistry} {definition : OperatorDefinition} {spelling word : String}

theorem mem_words_of_aliasPieces (member : word ∈ registry.aliasPieces) : ∃ spelling, word ∈ Text.words spelling := by
  obtain ⟨spelling, -, among⟩ := List.mem_flatMap.mp member
  exact ⟨spelling, among⟩

theorem aliasPieces_of_register (accepted : registry.register definition = (grown, none)) :
    grown.aliasPieces = registry.aliasPieces ++ definition.aliases.flatMap Text.words := by
  rw [aliasPieces, definitions_of_register accepted, List.flatMap_append, List.flatMap_append, List.flatMap_singleton]
  rfl

theorem unreserved_of_register (accepted : registry.register definition = (grown, none))
    (member : spelling ∈ definition.aliases) (among : word ∈ Text.words spelling) : word ∉ reservedWords := by
  rw [register] at accepted
  split at accepted
  · rename_i adding
    exact (alias_of_addAliases adding spelling member).1 word among
  · cases accepted

end OperatorRegistry

namespace Registries

open Source

variable {r : Registries} {grown : OperatorRegistry} {definition : OperatorDefinition} {spelling : String}

theorem mem_symbols_vocabulary {d : Delimiters} {symbol : String} :
    symbol ∈ (r.vocabulary d).symbols ↔ symbol ∈ r.operators.aliasPieces ∧ isWordLike symbol = false := by
  have symbols : (r.vocabulary d).symbols = dropRepeated (([] ++ r.operators.symbols).mergeSort symbolBefore) := rfl
  rw [symbols, mem_dropRepeated, List.mem_mergeSort, List.nil_append, OperatorRegistry.symbols, List.mem_filter,
    Bool.not_eq_true']

theorem isOperatorWord_vocabulary {word : String} :
    (r.vocabulary {}).isOperatorWord word = true ↔ word ∈ r.operators.aliasPieces ∧ isWordLike word = true := by
  have words : (r.vocabulary {}).words = [] ++ r.operators.words := rfl
  rw [Vocabulary.isOperatorWord, words, List.contains_iff_mem, List.nil_append, OperatorRegistry.words, List.mem_filter]

theorem standard_vocabulary (r : Registries) : Standard (r.vocabulary {}) := by
  have built : (r.vocabulary {}).Built := .keywords (.words (.symbols (.new _) _) _) _
  refine ⟨rfl, built.sorted, fun symbol known => ?_⟩
  obtain ⟨spelling, among⟩ := OperatorRegistry.mem_words_of_aliasPieces (mem_symbols_vocabulary.mp known).1
  exact (Text.mem_words among).2

/-- A vocabulary knows the words of all aliases of an operator that was registered last. -/
theorem knows_of_register (accepted : r.operators.register definition = (grown, none))
    (member : spelling ∈ definition.aliases) :
    ∀ word ∈ Text.words spelling, Knows ({ r with operators := grown }.vocabulary {}) word := by
  intro word among
  obtain ⟨inhabited, unbroken⟩ := Text.mem_words among
  have piece : word ∈ grown.aliasPieces := by
    rw [OperatorRegistry.aliasPieces_of_register accepted]
    exact List.mem_append_right _ (List.mem_flatMap.mpr ⟨spelling, member, among⟩)
  refine ⟨inhabited, unbroken, OperatorRegistry.unreserved_of_register accepted member among, ?_⟩
  split
  · rename_i wordLike
    exact isOperatorWord_vocabulary.mpr ⟨piece, wordLike⟩
  · rename_i symbol
    exact mem_symbols_vocabulary.mpr ⟨piece, Bool.eq_false_iff.mpr symbol⟩

/-- Whatever operators there are already: the words of an alias of an operator that is registered, written in an expression
with a space between neighbours, come out as one operator each exactly if all of them are writable. -/
theorem alias_written_iff (accepted : r.operators.register definition = (grown, none))
    (member : spelling ∈ definition.aliases) :
    (∃ tokens, tokenize ({ r with operators := grown }.vocabulary {}) (wordSource (Text.words spelling)) =
        .ok tokens ∧
      tokens.map Token.face = (.expressionStart, "") :: operatorFaces (Text.words spelling) ++
        [(.expressionEnd, ""), (.eof, "")]) ↔
      ∀ word ∈ Text.words spelling, Writable word :=
  tokenize_wordSource_iff (standard_vocabulary _) (knows_of_register accepted member)

/-- A registry with a symbol that is the start of one of `comparison`. -/
def orders : Registries where
  operators := (OperatorRegistry.register {} ⟨"less", ["<"], 20, .left, .binary, .binary "lt"⟩).1

def comparison : OperatorDefinition := ⟨"comparison", ["<=>  to"], 20, .left, .binary, .binary "eq"⟩

theorem comparison_written :
    (orders.operators.register comparison).2 = none ∧ "<=>  to" ∈ comparison.aliases ∧ ∃ tokens,
      tokenize ({ orders with operators := (orders.operators.register comparison).1 }.vocabulary {})
          "\x7b\x7b <=> to \x7d\x7d" = .ok tokens ∧
        tokens.map Token.face =
          [(.expressionStart, ""), (.operator, "<=>"), (.operator, "to"), (.expressionEnd, ""), (.eof, "")] := by
  have accepted : orders.operators.register comparison = ((orders.operators.register comparison).1, none) :=
    Prod.ext rfl (by decide +kernel)
  have member : "<=>  to" ∈ comparison.aliases := List.mem_cons_self
  have words : Text.words "<=>  to" = ["<=>", "to"] := by decide +kernel
  have writable : ∀ word ∈ Text.words "<=>  to", Writable word := by
    rw [words, List.forall_mem_cons, List.forall_mem_singleton]
    constructor
    · exact @Writable.symbol _ '<' ['=', '>'] rfl (by decide) (by decide) (by decide) (by decide)
    · exact .word ⟨'t', ['o'], rfl, by decide, List.all_eq_true.mp (by decide)⟩
  have written := (alias_written_iff accepted member).mpr writable
  rw [words] at written
  exact ⟨congrArg Prod.snd accepted, member, written⟩

/-- An operator with a word that is a number and one with a quote in it. -/
def parity : OperatorDefinition := ⟨"parity", ["is 2", "isn't"], 20, .left, .test false, .test "is_even"⟩

/-- The registry with `parity` alone. -/
def parities : OperatorRegistry := (OperatorRegistry.register {} parity).1

theorem vocabulary_parities : ({ operators := parities } : Registries).vocabulary {} =
    { symbols := ["2"], words := ["is", "isn't"] } := by
  have symbols : parities.symbols = ["2"] := by decide +kernel
  have words : parities.words = ["is", "isn't"] := by decide +kernel
  have keywords : ({} : TagRegistry).keywords = [] := rfl
  simp [vocabulary, Vocabulary.addSymbols, Vocabulary.addWords, Vocabulary.addKeywords, symbols, words, keywords,
    dropRepeated]

/-- Both aliases are accepted, but the words of neither come out as operators. -/
theorem parity_misread :
    OperatorRegistry.register {} parity = (parities, none) ∧
      tokenize (({ operators := parities } : Registries).vocabulary {}) "\x7b\x7b is 2 \x7d\x7d" =
        .ok [⟨.expressionStart, "", 1⟩, ⟨.operator, "is", 1⟩, ⟨.literal, "2", 1⟩, ⟨.expressionEnd, "", 1⟩, .eof 1] ∧
      tokenize (({ operators := parities } : Registries).vocabulary {}) "\x7b\x7b isn't \x7d\x7d" =
        .error ⟨.unterminatedString, 1, "'t \x7d\x7d"⟩ ∧
      ∀ spelling ∈ parity.aliases, ¬ ∃ tokens,
        tokenize (({ operators := parities } : Registries).vocabulary {}) (wordSource (Text.words spelling)) = .ok tokens ∧
          tokens.map Token.face = (.expressionStart, "") :: operatorFaces (Text.words spelling) ++
            [(.expressionEnd, ""), (.eof, "")] := by
  have number : tokenize { symbols := ["2"], words := ["is", "isn't"] } "\x7b\x7b is 2 \x7d\x7d" =
      .ok [⟨.expressionStart, "", 1⟩, ⟨.operator, "is", 1⟩, ⟨.literal, "2", 1⟩, ⟨.expressionEnd, "", 1⟩, .eof 1] := by
    decide +kernel
  have quote : tokenize { symbols := ["2"], words := ["is", "isn't"] } "\x7b\x7b isn't \x7d\x7d" =
      .error ⟨.unterminatedString, 1, "'t \x7d\x7d"⟩ := by
    decide +kernel
  have sources : wordSource (Text.words "is 2") = "\x7b\x7b is 2 \x7d\x7d" ∧
      wordSource (Text.words "isn't") = "\x7b\x7b isn't \x7d\x7d" ∧ Text.words "is 2" = ["is", "2"] := by
    decide +kernel
  rw [vocabulary_parities]
  refine ⟨Prod.ext rfl (by decide +kernel), number, quote, List.forall_mem_cons.mpr ⟨?_, List.forall_mem_singleton.mpr ?_⟩⟩
  · rw [sources.1, number, sources.2.2]
    rintro ⟨_, ⟨⟩, faces⟩
    revert faces
    decide
  · rw [sources.2.1, quote]
    rintro ⟨_, ⟨⟩, -⟩

end Registries

end Templating
