import Templating.Proofs.SourceSplitting
import Mathlib

/-! # Printing tokens

Tokens that fit a vocabulary can be printed so that tokenizing gives them back: each token of a region stands between
blanks, so it ends where it should, and no token looks like the closer of its region.
-/

namespace Templating

namespace Text

theorem CodeRange.exists_of_covers {code : Nat} {table : List CodeRange} (covered : CodeRange.covers code table = true) :
    ∃ range ∈ table, range.first ≤ code ∧ code ≤ range.last := by
  induction table with
  | nil => cases covered
  | cons range table ih =>
      simp only [covers, Bool.and_eq_true, Bool.or_eq_true, decide_eq_true_eq] at covered
      obtain ⟨above, below | later⟩ := covered
      · exact ⟨range, List.mem_cons_self, above, below⟩
      · obtain ⟨other, member, bounds⟩ := ih later
        exact ⟨other, List.mem_cons_of_mem _ member, bounds⟩

theorem blank_separates : ∀ range ∈ blankRanges, ∀ code ∈ List.range' range.first (range.last + 1 - range.first),
    (CodeRange.covers code letterRanges || CodeRange.covers code numberRanges) = false := by
  decide +kernel

theorem isLetterOrNumber_of_isBlank {c : Char} (blank : isBlank c = true) : isLetterOrNumber c = false := by
  obtain ⟨range, member, above, below⟩ := CodeRange.exists_of_covers blank
  exact blank_separates range member c.toNat (by rw [List.mem_range'_1]; omega)

theorem isDigit_iff {c : Char} : c.isDigit = true ↔ '0'.toNat ≤ c.toNat ∧ c.toNat ≤ '9'.toNat := by
  simp [Char.isDigit, UInt32.le_iff_toNat_le]

theorem isLetterOrNumber_of_isDigit {c : Char} (digit : c.isDigit = true) : isLetterOrNumber c = true := by
  obtain ⟨above, below⟩ := isDigit_iff.mp digit
  have number : CodeRange.holds numberRanges c = true :=
    Bool.and_eq_true_iff.mpr ⟨decide_eq_true above, Bool.or_eq_true_iff.mpr (.inl (decide_eq_true below))⟩
  rw [isLetterOrNumber, number, Bool.or_true]

theorem le_of_isLetter {c : Char} (letter : isLetter c = true) : 'A'.toNat ≤ c.toNat :=
  of_decide_eq_true (Bool.and_eq_true_iff.mp letter).1

end Text

namespace Vocabulary

/-- Vocabularies are made by adding symbols, words and keywords to one that has only delimiters. -/
inductive Built : Vocabulary → Prop where
  | new (d : Delimiters) : Built { delimiters := d }
  | symbols {v : Vocabulary} (built : Built v) (added : List String) : Built (v.addSymbols added)
  | words {v : Vocabulary} (built : Built v) (added : List String) : Built (v.addWords added)
  | keywords {v : Vocabulary} (built : Built v) (added : List String) : Built (v.addKeywords added)

theorem dropRepeated_sublist (symbols : List String) : (dropRepeated symbols).Sublist symbols := by
  fun_induction dropRepeated symbols with
  | case1 => exact .slnil
  | case2 => exact List.Sublist.refl _
  | case3 b rest ih => exact ih.cons _
  | case4 a b rest _ ih => exact ih.cons_cons _

theorem symbolBefore_iff {a b : String} :
    symbolBefore a b = true ↔ b.utf8ByteSize < a.utf8ByteSize ∨ a.utf8ByteSize = b.utf8ByteSize ∧ a ≤ b := by
  unfold symbolBefore
  split
  · rename_i same
    simp [same]
  · rename_i different
    simp [different]

theorem symbolBefore_trans (a b c : String) (first : symbolBefore a b = true) (second : symbolBefore b c = true) :
    symbolBefore a c = true := by
  rw [symbolBefore_iff] at *
  rcases first with longer | ⟨same, smaller⟩
  · rcases second with longer' | ⟨same', -⟩
    · exact .inl (longer'.trans longer)
    · exact .inl (same' ▸ longer)
  · rcases second with longer' | ⟨same', smaller'⟩
    · exact .inl (same ▸ longer')
    · exact .inr ⟨same.trans same', String.le_trans smaller smaller'⟩

theorem symbolBefore_total (a b : String) : (symbolBefore a b || symbolBefore b a) = true := by
  rw [Bool.or_eq_true, symbolBefore_iff, symbolBefore_iff]
  rcases Nat.lt_trichotomy a.utf8ByteSize b.utf8ByteSize with shorter | same | longer
  · exact .inr (.inl shorter)
  · exact (String.le_total a b).imp (fun smaller => .inr ⟨same, smaller⟩) fun smaller => .inr ⟨same.symm, smaller⟩
  · exact .inl (.inl longer)

theorem Built.sorted {v : Vocabulary} (built : v.Built) : v.symbols.Pairwise (symbolBefore · ·) := by
  induction built with
  | new d => exact .nil
  | symbols _ added _ =>
      exact (List.pairwise_mergeSort symbolBefore_trans symbolBefore_total _).sublist (dropRepeated_sublist _)
  | words _ _ ih => exact ih
  | keywords _ _ ih => exact ih

/-- No symbol looks like another token, like the closer of a region or like several symbols. -/
structure Separable (v : Vocabulary) : Prop where
  start : ∀ symbol ∈ v.symbols, ∀ first ∈ symbol.toList.head?,
    Source.startsWord first = false ∧ first.isDigit = false ∧ first ≠ '"' ∧ first ≠ '\''
  unbroken : ∀ symbol ∈ v.symbols, ∀ c ∈ symbol.toList, Text.isBlank c = false
  open_ : ∀ symbol ∈ v.symbols, ∀ close ∈ [v.delimiters.tag.closing, v.delimiters.expression.closing],
    ¬ Source.ClosesAt v.delimiters close symbol.toList

end Vocabulary

namespace Source

theorem not_continuesWord_of_isBlank {c : Char} (blank : Text.isBlank c = true) : continuesWord c = false := by
  unfold continuesWord
  rw [Text.isLetterOrNumber_of_isBlank blank, Bool.false_or, beq_eq_false_iff_ne]
  rintro rfl
  simp [show Text.isBlank '_' = false by decide] at blank

theorem continuesWord_of_startsWord {c : Char} (starts : startsWord c = true) : continuesWord c = true := by
  unfold startsWord at starts
  unfold continuesWord Text.isLetterOrNumber
  simp only [Bool.or_eq_true] at *
  exact starts.imp_left .inl

/-- The characters that no word, number or text in quotes starts with, and that every closer starts with, be it alone or
behind the trim mark. -/
def closerStarts : List Char :=
  ['%', '\x7d', '-']

theorem head_of_closesAt {close : String} {text : List Char}
    (closer : close ∈ [({} : Delimiters).tag.closing, ({} : Delimiters).expression.closing])
    (closes : ClosesAt {} close text) : ∃ first ∈ closerStarts, text.head? = some first := by
  simp only [List.mem_cons, List.not_mem_nil, or_false] at closer
  obtain ⟨rest, rfl⟩ | ⟨rest, rfl⟩ := closes
  · rcases closer with rfl | rfl
    · exact ⟨'%', by simp [closerStarts], rfl⟩
    · exact ⟨'\x7d', by simp [closerStarts], rfl⟩
  · exact ⟨'-', by simp [closerStarts], rfl⟩

theorem startsWord_facts {c : Char} (starts : startsWord c = true) :
    Text.isBlank c = false ∧ c.isDigit = false ∧ c ≠ '"' ∧ c ≠ '\'' ∧ c ∉ closerStarts := by
  refine ⟨?_, ?_, ?_, ?_, ?_⟩
  · cases blank : Text.isBlank c with
    | false => rfl
    | true => exact absurd (continuesWord_of_startsWord starts) (by simp [not_continuesWord_of_isBlank blank])
  · unfold startsWord at starts
    rcases Bool.or_eq_true_iff.mp starts with letter | underscore
    · have above := Text.le_of_isLetter letter
      rw [← Bool.not_eq_true, Text.isDigit_iff]
      exact fun ⟨_, below⟩ => absurd (above.trans below) (by decide)
    · rw [beq_iff_eq] at underscore
      subst underscore
      rfl
  · rintro rfl
    revert starts
    decide
  · rintro rfl
    revert starts
    decide
  · simp only [closerStarts, List.mem_cons, List.not_mem_nil, or_false]
    rintro (rfl | rfl | rfl)
    all_goals
      revert starts
      decide

theorem isDigit_facts {c : Char} (digit : c.isDigit = true) :
    Text.isBlank c = false ∧ c ≠ '"' ∧ c ≠ '\'' ∧ c ∉ closerStarts := by
  refine ⟨?_, ?_, ?_, ?_⟩
  · cases blank : Text.isBlank c with
    | false => rfl
    | true => exact absurd (Text.isLetterOrNumber_of_isDigit digit) (by simp [Text.isLetterOrNumber_of_isBlank blank])
  · rintro rfl
    revert digit
    decide
  · rintro rfl
    revert digit
    decide
  · simp only [closerStarts, List.mem_cons, List.not_mem_nil, or_false]
    rintro (rfl | rfl | rfl)
    all_goals
      revert digit
      decide

/-- A text that is read as one word. -/
def IsWord (value : String) : Prop :=
  ∃ first more, value.toList = first :: more ∧ startsWord first = true ∧ ∀ c ∈ more, continuesWord c = true

def IsDigits (text : List Char) : Prop :=
  text ≠ [] ∧ ∀ c ∈ text, c.isDigit = true

/-- What a token in a region can be, where `startsTag` says that it stands right behind the opener of a tag. A keyword
stands nowhere else, and there a word that could be one is one. -/
inductive Fits (v : Vocabulary) (startsTag : Bool) : TokenKind → String → Prop where
  | keyword {value : String} (word : IsWord value) (starts : startsTag = true) (known : v.isKeyword value = true) :
      Fits v startsTag .keyword value
  | literal {value : String} (known : value ∈ literalWords) (other : (startsTag && v.isKeyword value) = false) :
      Fits v startsTag .literal value
  | operatorWord {value : String} (word : IsWord value) (known : v.isOperatorWord value = true)
      (noLiteral : value ∉ literalWords) (other : (startsTag && v.isKeyword value) = false) :
      Fits v startsTag .operator value
  | identifier {value : String} (word : IsWord value) (noOperator : v.isOperatorWord value = false)
      (noLiteral : value ∉ literalWords) (other : (startsTag && v.isKeyword value) = false) :
      Fits v startsTag .identifier value
  | symbol {value : String} (known : value ∈ v.symbols) (inhabited : value ≠ "") : Fits v startsTag .operator value
  | whole {value : String} (digits : IsDigits value.toList) : Fits v startsTag .literal value
  | fraction {value : String} {whole behind : List Char} (split : value.toList = whole ++ '.' :: behind)
      (digits : IsDigits whole) (moreDigits : IsDigits behind) : Fits v startsTag .literal value
  | string (value : String) : Fits v startsTag .string value
  | punctuation {c : Char} (known : c ∈ punctuation) (noSymbol : String.singleton c ∉ v.symbols) :
      Fits v startsTag .punctuation (String.singleton c)

/-- A text in quotes has a backslash before each backslash and each quote. -/
def escapeQuoted (quote : Char) (value : List Char) : List Char :=
  value.flatMap fun c => if c = '\\' ∨ c = quote then ['\\', c] else [c]

def spelling (quote : Char) (kind : TokenKind) (value : String) : List Char :=
  if kind = .string then quote :: escapeQuoted quote value.toList ++ [quote] else value.toList

theorem takeWhile_before {p : Char → Bool} {body : List Char} {stop : Char} (rest : List Char) (inside : ∀ c ∈ body, p c = true)
    (ends : p stop = false) :
    (body ++ stop :: rest).takeWhile p = body ∧ (body ++ stop :: rest).dropWhile p = stop :: rest := by
  rw [List.takeWhile_append_of_pos inside, List.dropWhile_append_of_pos inside]
  simp [ends]

theorem forall_of_any {p : Char → Bool} {text : List Char} (nowhere : text.any p = false) : ∀ c ∈ text, p c = false :=
  fun c member => Bool.eq_false_iff.mpr (List.any_eq_false.mp nowhere c member)

theorem readQuoted_escapeQuoted {quote : Char} (isQuote : quote = '"' ∨ quote = '\'') (value rest : List Char) :
    ∃ lines, readQuoted quote (escapeQuoted quote value ++ quote :: rest) = some (value, lines, rest) := by
  have notEscape : quote ≠ '\\' := by
    rcases isQuote with rfl | rfl
    · decide
    · decide
  induction value with
  | nil =>
      refine ⟨0, ?_⟩
      simp [escapeQuoted, readQuoted, notEscape]
  | cons c value ih =>
      obtain ⟨lines, read⟩ := ih
      refine ⟨countLines [c] + lines, ?_⟩
      by_cases needed : c = '\\' ∨ c = quote
      · have meant : escaped c = [c] := by
          rcases needed with rfl | rfl
          · rfl
          · rcases isQuote with rfl | rfl
            · rfl
            · rfl
        have written : escapeQuoted quote (c :: value) = '\\' :: c :: escapeQuoted quote value := by
          simp [escapeQuoted, needed]
        rw [written, List.cons_append, List.cons_append, readQuoted, read, Option.map_some, meant]
        rfl
      · have written : escapeQuoted quote (c :: value) = c :: escapeQuoted quote value := by
          simp [escapeQuoted, needed]
        obtain ⟨noEscape, noQuote⟩ := not_or.mp needed
        rw [written, List.cons_append, readQuoted.eq_4 _ _ _ (fun same => absurd same noEscape)
          (fun _ _ same => absurd same noEscape), if_neg noQuote, read, Option.map_some]

/-- In front of a blank, a text is read as the given token and no closer stands there. -/
def ReadsBack (v : Vocabulary) (startsTag : Bool) (text : List Char) (kind : TokenKind) (value : String) : Prop :=
  ∀ (blank : Char) (rest : List Char), Text.isBlank blank = true →
    ∃ first more, text ++ blank :: rest = first :: more ∧ Text.isBlank first = false ∧
      (∀ close ∈ [v.delimiters.tag.closing, v.delimiters.expression.closing], ¬ ClosesAt v.delimiters close (first :: more)) ∧
      ∀ line, ∃ lines, readToken v startsTag line first more = .ok ⟨⟨kind, value, line⟩, lines, blank :: rest⟩

section

variable {v : Vocabulary} {startsTag : Bool} {value : String}

theorem open_of_head (plain : v.delimiters = {}) {first : Char} {more : List Char} (other : first ∉ closerStarts) :
    ∀ close ∈ [v.delimiters.tag.closing, v.delimiters.expression.closing], ¬ ClosesAt v.delimiters close (first :: more) := by
  rw [plain]
  intro close closer closes
  obtain ⟨start, member, same⟩ := head_of_closesAt closer closes
  cases same
  exact other member

theorem readsBack_word (plain : v.delimiters = {}) (word : IsWord value) {kind : TokenKind}
    (ofKind : wordKind v startsTag value = kind) : ReadsBack v startsTag value.toList kind value := by
  obtain ⟨first, more, shape, starts, continues⟩ := word
  intro blank rest isBlank
  obtain ⟨notBlank, noDigit, noDouble, noSingle, noCloser⟩ := startsWord_facts starts
  obtain ⟨taken, dropped⟩ := takeWhile_before rest continues (not_continuesWord_of_isBlank isBlank)
  have same : String.ofList (first :: more) = value := by
    rw [← shape, String.ofList_toList]
  refine ⟨first, more ++ blank :: rest, by rw [shape, List.cons_append], notBlank, open_of_head plain noCloser,
    fun line => ⟨0, ?_⟩⟩
  simp [readToken, noDouble, noSingle, noDigit, starts, taken, dropped, same, ofKind]

theorem readsBack_number (plain : v.delimiters = {}) {digits : List Char} (shape : value.toList = digits)
    {first : Char} (head : digits.head? = some first) (digit : first.isDigit = true)
    (number : ∀ blank rest, Text.isBlank blank = true → readNumber (digits ++ blank :: rest) = (digits, blank :: rest)) :
    ReadsBack v startsTag value.toList .literal value := by
  subst shape
  obtain ⟨more, shape⟩ := List.head?_eq_some_iff.mp head
  obtain ⟨notBlank, noDouble, noSingle, noCloser⟩ := isDigit_facts digit
  intro blank rest isBlank
  have read := number blank rest isBlank
  refine ⟨first, more ++ blank :: rest, by rw [shape, List.cons_append], notBlank, open_of_head plain noCloser,
    fun line => ⟨0, ?_⟩⟩
  rw [shape, List.cons_append] at read
  have same : String.ofList (first :: more) = value := by
    rw [← shape, String.ofList_toList]
  simp [readToken, noDouble, noSingle, digit, read, same]

theorem not_isDigit_of_isBlank {c : Char} (blank : Text.isBlank c = true) : c.isDigit = false := by
  cases digit : c.isDigit with
  | false => rfl
  | true => exact absurd (isDigit_facts digit).1 (by simp [blank])

theorem readNumber_whole {digits : List Char} (whole : IsDigits digits) (blank : Char) (rest : List Char)
    (isBlank : Text.isBlank blank = true) : readNumber (digits ++ blank :: rest) = (digits, blank :: rest) := by
  obtain ⟨taken, dropped⟩ := takeWhile_before rest whole.2 (not_isDigit_of_isBlank isBlank)
  have noPoint : blank ≠ '.' := by
    rintro rfl
    revert isBlank
    decide
  unfold readNumber
  rw [taken, dropped]
  dsimp only
  split
  · rename_i same
    cases same
    exact absurd rfl noPoint
  · rfl

theorem readNumber_fraction {whole behind : List Char} (digits : IsDigits whole) (moreDigits : IsDigits behind)
    (blank : Char) (rest : List Char) (isBlank : Text.isBlank blank = true) :
    readNumber ((whole ++ '.' :: behind) ++ blank :: rest) = (whole ++ '.' :: behind, blank :: rest) := by
  obtain ⟨inhabited, all⟩ := moreDigits
  obtain ⟨digit, later, rfl⟩ := List.exists_cons_of_ne_nil inhabited
  obtain ⟨taken, dropped⟩ := takeWhile_before (digit :: later ++ blank :: rest) digits.2
    (show '.'.isDigit = false from rfl)
  obtain ⟨takenBehind, droppedBehind⟩ := takeWhile_before rest all (not_isDigit_of_isBlank isBlank)
  have isDigit := all digit List.mem_cons_self
  rw [List.append_assoc, List.cons_append]
  unfold readNumber
  rw [taken, dropped]
  simp only [List.cons_append, isDigit, ↓reduceIte] at takenBehind droppedBehind ⊢
  rw [takenBehind, droppedBehind]

theorem readsBack_string (plain : v.delimiters = {}) {quote : Char} (isQuote : quote = '"' ∨ quote = '\'') (value : String) :
    ReadsBack v startsTag (quote :: escapeQuoted quote value.toList ++ [quote]) .string value := by
  intro blank rest isBlank
  obtain ⟨lines, read⟩ := readQuoted_escapeQuoted isQuote value.toList (blank :: rest)
  have facts : Text.isBlank quote = false ∧ quote ∉ closerStarts := by
    rcases isQuote with rfl | rfl
    · decide
    · decide
  refine ⟨quote, escapeQuoted quote value.toList ++ quote :: blank :: rest, by simp, facts.1,
    open_of_head plain facts.2, fun line => ⟨lines, ?_⟩⟩
  simp [readToken, isQuote, read]

theorem prefix_before_blank {piece text rest : List Char} {blank : Char} (unbroken : ∀ c ∈ piece, Text.isBlank c = false)
    (isBlank : Text.isBlank blank = true) (here : piece <+: text ++ blank :: rest) : piece <+: text := by
  rcases List.prefix_or_prefix_of_prefix here (List.prefix_append text (blank :: rest)) with fits | ⟨tail, rfl⟩
  · exact fits
  · cases tail with
    | nil => exact ⟨[], by simp⟩
    | cons c tail =>
        rw [List.prefix_append_right_inj] at here
        obtain ⟨_, joined⟩ := here
        cases joined
        have broken := unbroken blank (by simp)
        rw [isBlank] at broken
        cases broken

theorem symbolAt?_symbol (unbroken : ∀ symbol ∈ v.symbols, ∀ c ∈ symbol.toList, Text.isBlank c = false)
    (sorted : v.symbols.Pairwise (symbolBefore · ·)) (known : value ∈ v.symbols)
    (inhabited : value ≠ "") {blank : Char} (isBlank : Text.isBlank blank = true) (rest : List Char) :
    symbolAt? v (value.toList ++ blank :: rest) = some value := by
  have fits : (!value.isEmpty && value.toList.isPrefixOf (value.toList ++ blank :: rest)) = true := by
    simp [inhabited]
  obtain ⟨found, first⟩ : ∃ found, symbolAt? v (value.toList ++ blank :: rest) = some found :=
    Option.isSome_iff_exists.mp (List.find?_isSome.mpr ⟨value, known, fits⟩)
  obtain ⟨foundFits, earlier, later, split, missed⟩ := List.find?_eq_some_iff_append.mp first
  have foundKnown : found ∈ v.symbols := by simp [split]
  have shorter : found.toList <+: value.toList :=
    prefix_before_blank (unbroken found foundKnown) isBlank
      (List.isPrefixOf_iff_prefix.mp (Bool.and_eq_true_iff.mp foundFits).2)
  refine first.trans (congrArg some ?_)
  rw [split, List.mem_append, List.mem_cons] at known
  rcases known with before | same | behind
  · have := missed value before
    simp [fits] at this
  · exact same.symm
  -- A symbol found in front of the given one is at least as long, so it is the whole of it.
  · rw [split, List.pairwise_append, List.pairwise_cons] at sorted
    have bytes : value.utf8ByteSize ≤ found.utf8ByteSize := by
      rcases Vocabulary.symbolBefore_iff.mp (sorted.2.1.1 value behind) with less | ⟨same, -⟩
      · exact less.le
      · exact same.ge
    have longer := length_le_of_utf8ByteSize_le (List.prefix_refl _) shorter bytes
    rw [← String.length_toList, ← String.length_toList] at longer
    exact String.toList_inj.mp (shorter.eq_of_length_le longer)

/-- In front of a blank, a symbol that starts like no other token is read. -/
theorem readToken_symbol (unbroken : ∀ symbol ∈ v.symbols, ∀ c ∈ symbol.toList, Text.isBlank c = false)
    (sorted : v.symbols.Pairwise (symbolBefore · ·)) (known : value ∈ v.symbols) {first : Char} {more : List Char}
    (shape : value.toList = first :: more) (noWord : startsWord first = false) (noDigit : first.isDigit = false)
    (noQuote : first ≠ '"' ∧ first ≠ '\'') {blank : Char} (isBlank : Text.isBlank blank = true) (rest : List Char)
    (line : Nat) :
    readToken v startsTag line first (more ++ blank :: rest) = .ok ⟨⟨.operator, value, line⟩, 0, blank :: rest⟩ := by
  have inhabited : value ≠ "" := by
    rintro rfl
    cases shape
  have found := symbolAt?_symbol unbroken sorted known inhabited isBlank rest
  have behind : (value.toList ++ blank :: rest).drop value.length = blank :: rest := by
    rw [← String.length_toList, List.drop_left]
  rw [shape, List.cons_append] at found behind
  simp [readToken, noQuote, noDigit, noWord, found, behind]

theorem readsBack_symbol (plain : v.delimiters = {}) (separable : v.Separable)
    (sorted : v.symbols.Pairwise (symbolBefore · ·)) (known : value ∈ v.symbols) (inhabited : value ≠ "") :
    ReadsBack v startsTag value.toList .operator value := by
  intro blank rest isBlank
  obtain ⟨first, more, shape⟩ := List.exists_cons_of_ne_nil (mt String.toList_eq_nil_iff.mp inhabited)
  obtain ⟨noWord, noDigit, noQuote⟩ := separable.start value known first (by simp [shape])
  have notBlank := separable.unbroken value known first (by simp [shape])
  refine ⟨first, more ++ blank :: rest, by rw [shape, List.cons_append], notBlank, ?_, fun line => ⟨0, ?_⟩⟩
  · intro close closer closes
    rw [← List.cons_append, ← shape] at closes
    have unbroken : ∀ c ∈ v.delimiters.trim :: close.toList, Text.isBlank c = false := by
      rw [plain] at closer ⊢
      simp only [List.mem_cons, List.not_mem_nil, or_false] at closer
      rcases closer with rfl | rfl
      · exact forall_of_any (by decide)
      · exact forall_of_any (by decide)
    refine separable.open_ value known close closer (closes.imp ?_ (prefix_before_blank unbroken isBlank))
    exact prefix_before_blank (fun c member => unbroken c (List.mem_cons_of_mem _ member)) isBlank
  · exact readToken_symbol separable.unbroken sorted known shape noWord noDigit noQuote isBlank rest line

theorem punctuation_facts {c : Char} (known : c ∈ punctuation) :
    Text.isBlank c = false ∧ c ∉ closerStarts ∧ c ≠ '"' ∧ c ≠ '\'' ∧ c.isDigit = false ∧ startsWord c = false := by
  have checked : punctuation.all (fun c => decide (Text.isBlank c = false ∧ c ∉ closerStarts ∧ c ≠ '"' ∧ c ≠ '\'' ∧
      c.isDigit = false ∧ startsWord c = false)) = true := by
    decide +kernel
  exact of_decide_eq_true (List.all_eq_true.mp checked c known)

theorem readsBack_punctuation (plain : v.delimiters = {}) (separable : v.Separable) {c : Char} (known : c ∈ punctuation)
    (noSymbol : String.singleton c ∉ v.symbols) :
    ReadsBack v startsTag [c] .punctuation (String.singleton c) := by
  intro blank rest isBlank
  obtain ⟨notBlank, noCloser, noDouble, noSingle, noDigit, noWord⟩ := punctuation_facts known
  have nothing : symbolAt? v (c :: blank :: rest) = none := by
    refine List.find?_eq_none.mpr fun symbol member fits => noSymbol ?_
    simp only [Bool.and_eq_true, Bool.not_eq_true', List.isPrefixOf_iff_prefix] at fits
    have inside : symbol.toList <+: [c] := prefix_before_blank (separable.unbroken symbol member) isBlank fits.2
    have whole : symbol.toList = [c] := by
      rcases List.prefix_cons_iff.mp inside with empty | ⟨rest, shape, tail⟩
      · rw [String.toList_eq_nil_iff] at empty
        simp [empty] at fits
      · rw [shape, List.prefix_nil.mp tail]
    rwa [← String.toList_inj.mp (whole.trans (String.toList_singleton c).symm)]
  refine ⟨c, blank :: rest, rfl, notBlank, open_of_head plain noCloser, fun line => ⟨0, ?_⟩⟩
  simp [readToken, noDouble, noSingle, noDigit, noWord, nothing, known]

theorem Fits.readsBack {kind : TokenKind} (fits : Fits v startsTag kind value) (plain : v.delimiters = {}) (built : v.Built)
    (separable : v.Separable) {quote : Char} (isQuote : quote = '"' ∨ quote = '\'') :
    ReadsBack v startsTag (spelling quote kind value) kind value := by
  cases fits with
  | keyword word starts known =>
      have kind : wordKind v startsTag value = .keyword := by simp [wordKind, starts, known]
      exact readsBack_word plain word kind
  | literal known other =>
      have kind : wordKind v startsTag value = .literal := by simp [wordKind, other, known]
      have word : ∀ word ∈ literalWords, IsWord word := by
        simp only [literalWords, List.forall_mem_cons]
        exact ⟨⟨'t', ['r', 'u', 'e'], rfl, by decide, List.all_eq_true.mp (by decide)⟩,
          ⟨'f', ['a', 'l', 's', 'e'], rfl, by decide, List.all_eq_true.mp (by decide)⟩,
          ⟨'n', ['u', 'l', 'l'], rfl, by decide, List.all_eq_true.mp (by decide)⟩, nofun⟩
      exact readsBack_word plain (word value known) kind
  | operatorWord word known noLiteral other =>
      have kind : wordKind v startsTag value = .operator := by simp [wordKind, other, known, noLiteral]
      exact readsBack_word plain word kind
  | identifier word noOperator noLiteral other =>
      have kind : wordKind v startsTag value = .identifier := by simp [wordKind, other, noOperator, noLiteral]
      exact readsBack_word plain word kind
  | symbol known inhabited => exact readsBack_symbol plain separable built.sorted known inhabited
  | whole digits =>
      obtain ⟨first, more, shape⟩ := List.exists_cons_of_ne_nil digits.1
      exact readsBack_number plain rfl (by rw [shape]; rfl) (digits.2 first (by simp [shape])) (readNumber_whole digits)
  | fraction split digits moreDigits =>
      obtain ⟨first, more, shape⟩ := List.exists_cons_of_ne_nil digits.1
      exact readsBack_number plain split (by rw [shape]; rfl) (digits.2 first (by simp [shape]))
        (readNumber_fraction digits moreDigits)
  | string => exact readsBack_string plain isQuote value
  | punctuation known noSymbol =>
      unfold spelling
      rw [if_neg nofun, String.toList_singleton]
      exact readsBack_punctuation plain separable known noSymbol

end

/-- What stands around the tokens of a region: nothing but blanks, and some in front of the first token and behind each
token. -/
structure Spacing where
  behindOpener : List Char
  beforeToken : List Char
  behindToken : List Char
  blank : ∀ c ∈ behindOpener ++ beforeToken ++ behindToken, Text.isBlank c = true
  parted : behindOpener ++ beforeToken ≠ []
  ended : behindToken ≠ []

/-- One space on either side of each token. -/
def Spacing.around : Spacing where
  behindOpener := []
  beforeToken := [' ']
  behindToken := [' ']
  blank := List.all_eq_true.mp (by decide)
  parted := nofun
  ended := nofun

/-- One space between neighbours. -/
def Spacing.between : Spacing where
  behindOpener := [' ']
  beforeToken := []
  behindToken := [' ']
  blank := List.all_eq_true.mp (by decide)
  parted := nofun
  ended := nofun

def printToken (d : Delimiters) (spacing : Spacing) (quote : Char) (token : Token) : List Char :=
  match token.kind with
  | .text => token.value.toList
  | .tagStart => d.tag.opening.toList ++ spacing.behindOpener
  | .tagEnd => d.tag.closing.toList
  | .expressionStart => d.expression.opening.toList ++ spacing.behindOpener
  | .expressionEnd => d.expression.closing.toList
  | .eof => []
  | kind => spacing.beforeToken ++ spelling quote kind token.value ++ spacing.behindToken

def print (d : Delimiters) (spacing : Spacing) (quote : Char) (tokens : List Token) : List Char :=
  tokens.flatMap (printToken d spacing quote)

/-- The tokens between an opener and its closer. -/
inductive FitsRegion (v : Vocabulary) : Bool → List Token → Prop where
  | nil {startsTag : Bool} : FitsRegion v startsTag []
  | cons {startsTag : Bool} {token : Token} {tokens : List Token} (fits : Fits v startsTag token.kind token.value)
      (more : FitsRegion v false tokens) : FitsRegion v startsTag (token :: tokens)

/-- The opener that tokens start with, if they do. -/
def nextOpening (d : Delimiters) (tokens : List Token) : List Char :=
  match tokens.head?.map Token.kind with
  | some .tagStart => d.tag.opening.toList
  | some .expressionStart => d.expression.opening.toList
  | _ => []

/-- No opener starts in a text, where `next` stands behind it. -/
def Clear (d : Delimiters) (text next : List Char) : Prop :=
  ∀ opener ∈ openers d, ∀ place < text.length, ¬ StandsAt opener.opening.toList (text ++ next) place

instance (d : Delimiters) (text next : List Char) : Decidable (Clear d text next) :=
  inferInstanceAs (Decidable (∀ opener ∈ openers d, ∀ place < text.length, _))

theorem clear_nil (d : Delimiters) (next : List Char) : Clear d [] next :=
  fun _ _ _ inside => absurd inside (Nat.not_lt_zero _)

/-- The tokens of a source: regions with fitting tokens, and between them texts, of which no two are neighbours and in which
no opener starts. -/
inductive Shaped (v : Vocabulary) : List Token → Prop where
  | eof {line : Nat} : Shaped v [⟨.eof, "", line⟩]
  | text {value : String} {line : Nat} {rest : List Token} (inhabited : value ≠ "")
      (alone : ∀ next ∈ rest.head?, next.kind ≠ .text)
      (clear : Clear v.delimiters value.toList (nextOpening v.delimiters rest)) (more : Shaped v rest) :
      Shaped v (⟨.text, value, line⟩ :: rest)
  | tag {inner rest : List Token} {line line' : Nat} (fits : FitsRegion v true inner) (more : Shaped v rest) :
      Shaped v (⟨.tagStart, "", line⟩ :: inner ++ ⟨.tagEnd, "", line'⟩ :: rest)
  | expression {inner rest : List Token} {line line' : Nat} (fits : FitsRegion v false inner) (more : Shaped v rest) :
      Shaped v (⟨.expressionStart, "", line⟩ :: inner ++ ⟨.expressionEnd, "", line'⟩ :: rest)

section

variable {v : Vocabulary} {spacing : Spacing} {quote : Char}

theorem Fits.printToken_eq {d : Delimiters} {startsTag : Bool} {token : Token} (fits : Fits v startsTag token.kind token.value) :
    printToken d spacing quote token =
      spacing.beforeToken ++ spelling quote token.kind token.value ++ spacing.behindToken := by
  unfold printToken
  generalize token.kind = kind at fits ⊢
  generalize token.value = value at fits ⊢
  cases fits with
  | _ => rfl

theorem trimStart_append {gap text : List Char} (blank : ∀ c ∈ gap, Text.isBlank c = true) :
    Text.trimStart (gap ++ text) = Text.trimStart text :=
  List.dropWhile_append_of_pos blank

theorem trimStart_of_head {first : Char} {more : List Char} (notBlank : Text.isBlank first = false) :
    Text.trimStart (first :: more) = first :: more :=
  List.dropWhile_cons_of_neg (by simp [notBlank])

theorem readRegion_closed {close : String} {startsTag : Bool} (closer : TokenKind) (unterminated : LexError) (line : Nat)
    {text rest : List Char} {first : Char} {more : List Char} {trims : Bool} (here : Text.trimStart text = first :: more)
    (closes : closed? v.delimiters close (first :: more) = some (trims, rest)) :
    ∃ line', readRegion wordBehind v close closer unterminated startsTag line text =
      .ok ⟨[⟨closer, "", line'⟩], line', trims, rest⟩ := by
  refine ⟨wordBehind line (countLines (text.takeWhile Text.isBlank)), ?_⟩
  rw [readRegion]
  split
  · rename_i nothing
    rw [here] at nothing
    cases nothing
  · rw [here, closes]

theorem readRegion_token {close : String} {startsTag : Bool} (closer : TokenKind) (unterminated : LexError) (line : Nat)
    {text : List Char} {first : Char} {more : List Char} (here : Text.trimStart text = first :: more)
    (goesOn : closed? v.delimiters close (first :: more) = none) {kind : TokenKind} {value : String} {rest : List Char}
    (read : ∀ line, ∃ lines, readToken v startsTag line first more = .ok ⟨⟨kind, value, line⟩, lines, rest⟩) :
    ∃ line' line'', readRegion wordBehind v close closer unterminated startsTag line text =
      (readRegion wordBehind v close closer unterminated false line'' rest).map fun done =>
        { done with tokens := ⟨kind, value, line'⟩ :: done.tokens } := by
  obtain ⟨lines, one⟩ := read (wordBehind line (countLines (text.takeWhile Text.isBlank)))
  refine ⟨wordBehind line (countLines (text.takeWhile Text.isBlank)),
    wordBehind (wordBehind line (countLines (text.takeWhile Text.isBlank))) lines, ?_⟩
  rw [readRegion]
  split
  · rename_i nothing
    rw [here] at nothing
    cases nothing
  · rename_i shape
    rw [here] at shape
    cases shape
    rw [here, goesOn]
    dsimp only
    split
    · rename_i failed
      rw [one] at failed
      cases failed
    · rename_i lexeme found
      rw [one] at found
      cases found
      rfl

/-- In front of a blank, a text is read as the given token and does not close the region. -/
def ReadsIn (v : Vocabulary) (close : String) (startsTag : Bool) (text : List Char) (kind : TokenKind) (value : String) : Prop :=
  ∀ (blank : Char) (rest : List Char), Text.isBlank blank = true →
    ∃ first more, text ++ blank :: rest = first :: more ∧ Text.isBlank first = false ∧
      ¬ ClosesAt v.delimiters close (first :: more) ∧
      ∀ line, ∃ lines, readToken v startsTag line first more = .ok ⟨⟨kind, value, line⟩, lines, blank :: rest⟩

/-- A token behind blanks and in front of one comes before the tokens of the rest of the region. -/
theorem ReadsIn.readRegion {close : String} {startsTag : Bool} {text : List Char} {kind : TokenKind} {value : String}
    (reads : ReadsIn v close startsTag text kind value) (closer : TokenKind) (unterminated : LexError) (line : Nat)
    {gap : List Char} (blanks : ∀ c ∈ gap, Text.isBlank c = true) {blank : Char} (isBlank : Text.isBlank blank = true)
    (rest : List Char) :
    ∃ line' line'', readRegion wordBehind v close closer unterminated startsTag line (gap ++ (text ++ blank :: rest)) =
      (readRegion wordBehind v close closer unterminated false line'' (blank :: rest)).map fun done =>
        { done with tokens := ⟨kind, value, line'⟩ :: done.tokens } := by
  obtain ⟨first, more, shape, notBlank, goesOn, read⟩ := reads blank rest isBlank
  rw [shape]
  exact readRegion_token closer unterminated line ((trimStart_append blanks).trans (trimStart_of_head notBlank))
    (closed?_eq_none_iff.mpr goesOn) read

theorem readRegion_end (plain : v.delimiters = {}) {close : String} (closer : TokenKind) (unterminated : LexError)
    (isClose : close ∈ [v.delimiters.tag.closing, v.delimiters.expression.closing]) (startsTag : Bool) (line : Nat)
    {gap : List Char} (blanks : ∀ c ∈ gap, Text.isBlank c = true) (rest : List Char) :
    ∃ line', readRegion wordBehind v close closer unterminated startsTag line (gap ++ (close.toList ++ rest)) =
      .ok ⟨[⟨closer, "", line'⟩], line', false, rest⟩ := by
  obtain ⟨first, more, shape, notBlank, closes⟩ : ∃ first more, close.toList ++ rest = first :: more ∧
      Text.isBlank first = false ∧ closed? v.delimiters close (first :: more) = some (false, rest) := by
    rw [plain] at isClose ⊢
    simp only [List.mem_cons, List.not_mem_nil, or_false] at isClose
    rcases isClose with rfl | rfl
    · exact ⟨'%', '\x7d' :: rest, rfl, by decide, rfl⟩
    · exact ⟨'\x7d', '\x7d' :: rest, rfl, by decide, rfl⟩
  rw [shape]
  exact readRegion_closed closer unterminated line ((trimStart_append blanks).trans (trimStart_of_head notBlank)) closes

theorem readRegion_print (spacing : Spacing) (plain : v.delimiters = {}) (built : v.Built) (separable : v.Separable)
    (isQuote : quote = '"' ∨ quote = '\'') {close : String} (closer : TokenKind) (unterminated : LexError)
    (isClose : close ∈ [v.delimiters.tag.closing, v.delimiters.expression.closing]) {startsTag : Bool}
    {inner : List Token} (fits : FitsRegion v startsTag inner) (rest : List Char) :
    ∀ (line : Nat) (gap : List Char), (∀ c ∈ gap, Text.isBlank c = true) →
      ∃ done, readRegion wordBehind v close closer unterminated startsTag line
          (gap ++ (print v.delimiters spacing quote inner ++ (close.toList ++ rest))) = .ok done ∧
        done.tokens.map Token.face = inner.map Token.face ++ [(closer, "")] ∧ done.trims = false ∧ done.rest = rest := by
  induction fits with
  | nil =>
      intro line gap blank
      obtain ⟨line', read⟩ := readRegion_end plain closer unterminated isClose _ line blank rest
      exact ⟨_, read, rfl, rfl, rfl⟩
  | @cons startsTag token tokens fits _ ih =>
      intro line gap blank
      obtain ⟨stop, spaces, spaced⟩ := List.exists_cons_of_ne_nil spacing.ended
      have blanks : ∀ c ∈ spacing.beforeToken ++ spacing.behindToken, Text.isBlank c = true := fun c member =>
        spacing.blank c (by rw [List.append_assoc]; exact List.mem_append_right _ member)
      have before : ∀ c ∈ gap ++ spacing.beforeToken, Text.isBlank c = true := by
        intro c member
        rcases List.mem_append.mp member with inGap | inFront
        · exact blank c inGap
        · exact blanks c (List.mem_append_left _ inFront)
      have behind : ∀ c ∈ spacing.behindToken, Text.isBlank c = true := fun c member =>
        blanks c (List.mem_append_right _ member)
      have isStop : Text.isBlank stop = true := behind stop (by simp [spaced])
      -- The whole text is the blanks in front, the token, and what its own blanks and the other tokens make up.
      have split : gap ++ (print v.delimiters spacing quote (token :: tokens) ++ (close.toList ++ rest)) =
          (gap ++ spacing.beforeToken) ++ (spelling quote token.kind token.value ++
            stop :: (spaces ++ (print v.delimiters spacing quote tokens ++ (close.toList ++ rest)))) := by
        rw [print, List.flatMap_cons, fits.printToken_eq, spaced]
        simp [print]
      have reads : ReadsIn v close startsTag (spelling quote token.kind token.value) token.kind token.value := by
        intro blank rest isBlank
        obtain ⟨first, more, shape, notBlank, goesOn, read⟩ := fits.readsBack plain built separable isQuote blank rest isBlank
        exact ⟨first, more, shape, notBlank, goesOn close isClose, read⟩
      obtain ⟨line', line'', step⟩ := reads.readRegion closer unterminated line before isStop _
      rw [split, step, ← List.cons_append, ← spaced]
      obtain ⟨done, rest, faces, untrimmed, left⟩ := ih line'' spacing.behindToken behind
      refine ⟨{ done with tokens := ⟨token.kind, token.value, line'⟩ :: done.tokens }, ?_, ?_, untrimmed, left⟩
      · rw [rest]
        rfl
      · rw [List.map_cons, List.map_cons, List.cons_append, ← faces]
        rfl

/-- An opener stands behind a text in which none starts, and no other one stands there. -/
theorem Clear.opens {front : List Char} {opener : Opener} (clear : Clear {} front opener.opening.toList)
    (member : opener ∈ openers {}) (next : List Char) :
    Opens (openers {}) (front ++ (opener.opening.toList ++ next)) front.length opener ∧
      ∀ other ∈ openers {}, StandsAt other.opening.toList (front ++ (opener.opening.toList ++ next)) front.length →
        other = opener := by
  have alike : ∀ one ∈ openers {}, ∀ other ∈ openers {},
      one.opening.toList.length = 2 ∧ (one.opening = other.opening → one = other) := by
    decide
  have only : ∀ other ∈ openers {}, StandsAt other.opening.toList (front ++ (opener.opening.toList ++ next)) front.length →
      other = opener := by
    intro other among stands
    rw [standsAt_behind] at stands
    have length : other.opening.toList.length = opener.opening.toList.length :=
      (alike other among other among).1.trans (alike opener member opener member).1.symm
    have same := List.prefix_of_prefix_length_le stands (List.prefix_append _ next) length.le
    exact (alike other among opener member).2 (String.toList_inj.mp (same.eq_of_length length))
  refine ⟨⟨member, ?_, ?_, ?_⟩, only⟩
  · rw [standsAt_behind]
    exact List.prefix_append _ _
  · intro other among earlier before stands
    rw [← List.append_assoc] at stands
    refine clear other among earlier before ((standsAt_append_right ?_).mp stands)
    rw [List.length_append, (alike other among other among).1, (alike opener member opener member).1]
    omega
  · intro other among stands
    rw [only other among stands]

/-- What scanning does with a region that no trim mark opens, in terms of what reading the region and scanning what is
behind it do. -/
theorem scan_region {finders : List Finder} {position line : Nat} {front behind rest : List Char} {opener : Opener}
    {faces later : List (TokenKind × String)}
    (tracks : Tracks v.delimiters finders position (front ++ (opener.opening.toList ++ behind)))
    (chosen : chooseOpener finders position (front ++ (opener.opening.toList ++ behind)) =
      some (position + front.length, opener))
    (some_char : opener.opening.toList ≠ []) (unmarked : behind.head? ≠ some v.delimiters.trim)
    (read : ∀ unterminated line, ∃ done, readSection wordBehind v opener unterminated line behind = .ok done ∧
      done.tokens.map Token.face = faces ∧ done.trims = false ∧ done.rest = rest)
    (left : rest <:+ behind)
    (goesOn : ∀ finders position line, Tracks v.delimiters finders position rest →
      ∃ tokens, scan wordBehind v finders position line false rest = .ok tokens ∧ tokens.map Token.face = later) :
    ∃ tokens, scan wordBehind v finders position line false (front ++ (opener.opening.toList ++ behind)) = .ok tokens ∧
      tokens.map Token.face = textFaces front ++ faces ++ later := by
  obtain ⟨region, rfl⟩ := left
  obtain ⟨done, section_, sectionFaces, untrimmed, remains⟩ :=
    read (.atPlace (.unterminatedRegion opener.region) (wordBehind line (countLines front))
      (opener.opening.toList ++ (region ++ rest)))
      (wordBehind line (countLines front))
  generalize whole : front ++ (opener.opening.toList ++ (region ++ rest)) = unread at *
  have inhabited : unread ≠ [] := by
    rw [← whole]
    simp [some_char]
  have taken : unread.take front.length = front := by rw [← whole, List.take_left]
  have dropped : unread.drop front.length = opener.opening.toList ++ (region ++ rest) := by rw [← whole, List.drop_left]
  have total : unread.length = (front ++ opener.opening.toList ++ region).length + rest.length := by
    simp only [← whole, List.length_append, Nat.add_assoc]
  have positive := List.length_pos_iff.mpr some_char
  have shorter : rest.length < unread.length := by
    simp only [List.length_append] at total
    omega
  have moved : unread.drop (unread.length - rest.length) = rest := by
    rw [total, Nat.add_sub_cancel, ← whole, ← List.append_assoc, ← List.append_assoc, List.drop_left]
  have further := tracks.advance (unread.length - rest.length)
  rw [moved] at further
  obtain ⟨tokens, scanned, restFaces⟩ := goesOn _ _ done.line further
  refine ⟨textTokens wordBehind line false false front ++ done.tokens ++ tokens, ?_, ?_⟩
  · rw [scan, if_neg (by simpa using inhabited), chosen]
    dsimp only
    rw [Nat.add_sub_cancel_left, taken, dropped, ← String.length_toList, List.drop_left, beq_eq_false_iff_ne.mpr unmarked,
      if_neg Bool.false_ne_true, section_]
    dsimp only
    rw [remains, if_pos shorter, untrimmed, scanned]
    rfl
  · rw [List.map_append, List.map_append, face_textTokens, sectionFaces, restFaces]
    rfl

theorem head_ne_of_isBlank {gap text : List Char} (blank : ∀ c ∈ gap, Text.isBlank c = true) (inhabited : gap ≠ []) :
    (gap ++ text).head? ≠ some '-' := by
  obtain ⟨first, more, rfl⟩ := List.exists_cons_of_ne_nil inhabited
  rintro same
  cases same
  have := blank '-' List.mem_cons_self
  revert this
  decide

theorem head_print_ne (plain : v.delimiters = {}) {close : String}
    (isClose : close ∈ [v.delimiters.tag.closing, v.delimiters.expression.closing]) {startsTag : Bool} {inner : List Token}
    (fits : FitsRegion v startsTag inner) (rest : List Char) :
    (spacing.behindOpener ++ (print v.delimiters spacing quote inner ++ (close.toList ++ rest))).head? ≠
      some v.delimiters.trim := by
  have blanks : ∀ c ∈ spacing.behindOpener ++ spacing.beforeToken, Text.isBlank c = true := fun c member =>
    spacing.blank c (List.mem_append_left _ member)
  have mark : v.delimiters.trim = '-' := by rw [plain]
  rw [mark]
  cases fits with
  | nil =>
      by_cases empty : spacing.behindOpener = []
      · rw [plain] at isClose
        simp only [List.mem_cons, List.not_mem_nil, or_false] at isClose
        rw [empty]
        rcases isClose with rfl | rfl
        · exact Option.some_inj.not.mpr (by decide)
        · exact Option.some_inj.not.mpr (by decide)
      · exact head_ne_of_isBlank (fun c member => blanks c (List.mem_append_left _ member)) empty
  | cons fits _ =>
      rw [print, List.flatMap_cons, fits.printToken_eq, List.append_assoc, List.append_assoc, List.append_assoc,
        ← List.append_assoc]
      exact head_ne_of_isBlank blanks spacing.parted

/-- Scanning a printed region behind a text gives the text, the region and what scanning the rest gives. -/
theorem scan_printed_region (plain : v.delimiters = {}) (built : v.Built) (separable : v.Separable)
    (isQuote : quote = '"' ∨ quote = '\'') {opener : Opener} (member : opener ∈ openers v.delimiters)
    (isClose : opener.closing ∈ [v.delimiters.tag.closing, v.delimiters.expression.closing]) {isTag : Bool}
    (opens closes : TokenKind)
    (sections : ∀ unterminated line text, readSection wordBehind v opener unterminated line text =
      (readRegion wordBehind v opener.closing closes unterminated isTag line text).map fun done =>
        { done with tokens := ⟨opens, "", line⟩ :: done.tokens })
    {inner : List Token} (fits : FitsRegion v isTag inner) {front rest : List Char} {later : List (TokenKind × String)}
    {finders : List Finder} {position : Nat} (line : Nat) (clear : Clear v.delimiters front opener.opening.toList)
    (tracks : Tracks v.delimiters finders position (front ++ (opener.opening.toList ++ (spacing.behindOpener ++
      (print v.delimiters spacing quote inner ++ (opener.closing.toList ++ rest))))))
    (goesOn : ∀ finders position line, Tracks v.delimiters finders position rest →
      ∃ tokens, scan wordBehind v finders position line false rest = .ok tokens ∧ tokens.map Token.face = later) :
    ∃ tokens, scan wordBehind v finders position line false (front ++ (opener.opening.toList ++ (spacing.behindOpener ++
        (print v.delimiters spacing quote inner ++ (opener.closing.toList ++ rest))))) = .ok tokens ∧
      tokens.map Token.face =
        textFaces front ++ ((opens, "") :: inner.map Token.face ++ [(closes, "")]) ++ later := by
  have some_char : opener.opening.toList ≠ [] := opening_ne_nil (by rw [plain]; rfl) member
  have blanks : ∀ c ∈ spacing.behindOpener, Text.isBlank c = true := fun c member =>
    spacing.blank c (List.mem_append_left _ (List.mem_append_left _ member))
  obtain ⟨there, only⟩ := (plain ▸ clear : Clear {} front opener.opening.toList).opens (plain ▸ member)
    (spacing.behindOpener ++ (print v.delimiters spacing quote inner ++ (opener.closing.toList ++ rest)))
  rw [← plain] at there only
  refine scan_region tracks (tracks.chooseOpener_eq_some there only) some_char (head_print_ne plain isClose fits rest) ?_ ?_
    goesOn
  · intro unterminated line
    obtain ⟨done, read, faces, untrimmed, remains⟩ := readRegion_print spacing plain built separable isQuote
      closes unterminated isClose fits rest line spacing.behindOpener blanks
    refine ⟨{ done with tokens := ⟨opens, "", line⟩ :: done.tokens }, ?_, ?_, untrimmed, remains⟩
    · rw [sections, read]
      rfl
    · rw [List.map_cons, faces, List.cons_append]
      rfl
  · refine ⟨spacing.behindOpener ++ print v.delimiters spacing quote inner ++ opener.closing.toList, ?_⟩
    simp only [List.append_assoc]

theorem textFaces_of_ne {text : List Char} (inhabited : text ≠ []) : textFaces text = [(.text, String.ofList text)] := by
  rw [textFaces, if_neg (by simpa using inhabited)]

theorem scan_print (plain : v.delimiters = {}) (built : v.Built) (separable : v.Separable)
    (isQuote : quote = '"' ∨ quote = '\'') {tokens : List Token} (shaped : Shaped v tokens) :
    ∀ {front : List Char} (finders : List Finder) (position line : Nat),
      (front ≠ [] → ∀ next ∈ tokens.head?, next.kind ≠ .text) →
      Clear v.delimiters front (nextOpening v.delimiters tokens) →
      Tracks v.delimiters finders position (front ++ print v.delimiters spacing quote tokens) →
      ∃ read, scan wordBehind v finders position line false (front ++ print v.delimiters spacing quote tokens) = .ok read ∧
        read.map Token.face = textFaces front ++ tokens.map Token.face := by
  induction shaped with
  | @eof line' =>
      intro front finders position line _ clear tracks
      have printed : front ++ print v.delimiters spacing quote [⟨.eof, "", line'⟩] = front := List.append_nil _
      rw [printed] at tracks ⊢
      by_cases empty : front = []
      · subst empty
        refine ⟨[.eof line], ?_, rfl⟩
        rw [scan]
        rfl
      · have nowhere : ∀ opener ∈ openers v.delimiters, ∀ place, ¬ StandsAt opener.opening.toList front place := by
          intro opener member place stands
          have some_char : opener.opening.toList ≠ [] := opening_ne_nil (by rw [plain]; rfl) member
          have room := stands.leaves_room some_char
          have positive := List.length_pos_iff.mpr some_char
          refine clear opener member place (by omega) ?_
          rwa [show nextOpening v.delimiters [⟨.eof, "", line'⟩] = [] from rfl, List.append_nil]
        refine ⟨textTokens wordBehind line false false front ++ [.eof (wordBehind line (countLines front))], ?_, ?_⟩
        · rw [scan, if_neg (by simpa using empty), tracks.chooseOpener_eq_none nowhere]
        · rw [List.map_append, face_textTokens]
          rfl
  | @text value line' rest inhabited alone clear _ ih =>
      intro front finders position line apart _ tracks
      obtain rfl : front = [] := by
        by_contra some_front
        exact apart some_front _ rfl rfl
      have printed : print v.delimiters spacing quote (⟨.text, value, line'⟩ :: rest) =
          value.toList ++ print v.delimiters spacing quote rest := rfl
      rw [List.nil_append, printed] at tracks ⊢
      obtain ⟨read, scanned, faces⟩ := ih finders position line (fun _ => alone) clear tracks
      refine ⟨read, scanned, ?_⟩
      rw [faces, textFaces_of_ne (mt String.toList_eq_nil_iff.mp inhabited), String.ofList_toList]
      rfl
  | @tag inner rest line' line'' fits _ ih =>
      intro front finders position line _ clear tracks
      have printed : print v.delimiters spacing quote (⟨.tagStart, "", line'⟩ :: inner ++ ⟨.tagEnd, "", line''⟩ :: rest) =
          v.delimiters.tag.opening.toList ++ (spacing.behindOpener ++ (print v.delimiters spacing quote inner ++
            (v.delimiters.tag.closing.toList ++ print v.delimiters spacing quote rest))) := by
        simp [print, printToken]
      rw [printed] at tracks ⊢
      have isOpener : ⟨.tag, v.delimiters.tag.opening, v.delimiters.tag.closing⟩ ∈ openers v.delimiters := by
        simp [openers]
      obtain ⟨read, scanned, faces⟩ := scan_printed_region plain built separable isQuote isOpener (by simp) .tagStart
        .tagEnd (fun _ _ _ => rfl) fits line clear tracks
        (fun finders position line tracks => ih finders position line (absurd rfl) (clear_nil _ _) tracks)
      refine ⟨read, scanned, faces.trans ?_⟩
      simp [Token.face, textFaces]
  | @expression inner rest line' line'' fits _ ih =>
      intro front finders position line _ clear tracks
      have printed : print v.delimiters spacing quote
            (⟨.expressionStart, "", line'⟩ :: inner ++ ⟨.expressionEnd, "", line''⟩ :: rest) =
          v.delimiters.expression.opening.toList ++ (spacing.behindOpener ++ (print v.delimiters spacing quote inner ++
            (v.delimiters.expression.closing.toList ++ print v.delimiters spacing quote rest))) := by
        simp [print, printToken]
      rw [printed] at tracks ⊢
      have isOpener : ⟨.expression, v.delimiters.expression.opening, v.delimiters.expression.closing⟩ ∈
          openers v.delimiters := by
        simp [openers]
      obtain ⟨read, scanned, faces⟩ := scan_printed_region plain built separable isQuote isOpener (by simp) .expressionStart
        .expressionEnd (fun _ _ _ => rfl) fits line clear tracks
        (fun finders position line tracks => ih finders position line (absurd rfl) (clear_nil _ _) tracks)
      refine ⟨read, scanned, faces.trans ?_⟩
      simp [Token.face, textFaces]

/-- Tokens that fit the vocabulary are what their printed form is tokenized to, apart from the lines. -/
theorem tokenize_print (plain : v.delimiters = {}) (built : v.Built) (separable : v.Separable)
    (isQuote : quote = '"' ∨ quote = '\'') (spacing : Spacing) {tokens : List Token} (shaped : Shaped v tokens) :
    ∃ read, tokenize v (String.ofList (print v.delimiters spacing quote tokens)) = .ok read ∧
      read.map Token.face = tokens.map Token.face := by
  have start : Tracks v.delimiters ((openers v.delimiters).map fun opener => { opener := opener }) 0
      ([] ++ print v.delimiters spacing quote tokens) := tracks_start _ _
  obtain ⟨read, scanned, faces⟩ := scan_print plain built separable isQuote shaped _ 0 1 (absurd rfl) (clear_nil _ _) start
  refine ⟨read, ?_, faces⟩
  rw [tokenize, tokenizeBy, String.toList_ofList]
  exact scanned

/-- A vocabulary in which one symbol starts another, one starts a closer and one is the trim mark. -/
def arrowVocabulary : Vocabulary :=
  (((({} : Vocabulary).addSymbols ["-", "%"]).addSymbols ["->", ".."]).addWords ["is"]).addKeywords ["if"]

/-- A text, a tag and an expression with tokens that look like parts of delimiters. -/
def arrowTokens : List Token :=
  [⟨.text, "100% \x7b ", 1⟩, ⟨.tagStart, "", 1⟩, ⟨.keyword, "if", 1⟩, ⟨.operator, "->", 1⟩, ⟨.literal, "1.5", 1⟩,
    ⟨.operator, "%", 1⟩, ⟨.tagEnd, "", 1⟩, ⟨.expressionStart, "", 1⟩, ⟨.identifier, "if", 1⟩, ⟨.punctuation, ".", 1⟩,
    ⟨.string, "it's \\ %\x7d", 1⟩, ⟨.operator, "-", 1⟩, ⟨.expressionEnd, "", 1⟩, ⟨.eof, "", 1⟩]

theorem arrowVocabulary_symbols : arrowVocabulary.symbols = ["->", "..", "%", "-"] := by
  cbv

theorem arrowVocabulary_separable : arrowVocabulary.Separable := by
  constructor
  · rw [arrowVocabulary_symbols]
    intro symbol member first head
    simp only [List.mem_cons, List.not_mem_nil, or_false] at member
    rcases member with rfl | rfl | rfl | rfl
    all_goals
      cases head
      decide
  · rw [arrowVocabulary_symbols]
    intro symbol member
    simp only [List.mem_cons, List.not_mem_nil, or_false] at member
    rcases member with rfl | rfl | rfl | rfl
    all_goals exact forall_of_any (by decide)
  · rw [arrowVocabulary_symbols]
    decide +kernel

theorem arrowTokens_printed :
    arrowVocabulary.Separable ∧
    ∃ read, tokenize arrowVocabulary (String.ofList (print arrowVocabulary.delimiters .around '\'' arrowTokens)) = .ok read ∧
      read.map Token.face = arrowTokens.map Token.face := by
  have built : arrowVocabulary.Built := .keywords (.words (.symbols (.symbols (.new _) _) _) _) _
  have isIf : IsWord "if" := ⟨'i', ['f'], rfl, by decide, List.all_eq_true.mp (by decide)⟩
  have known : ∀ symbol ∈ ["->", "%", "-"], Fits arrowVocabulary false .operator symbol := by
    intro symbol member
    refine .symbol ?_ ?_
    · rw [arrowVocabulary_symbols]
      revert symbol
      decide
    · revert symbol
      decide
  have number : Fits arrowVocabulary false .literal "1.5" :=
    .fraction (show "1.5".toList = ['1'] ++ '.' :: ['5'] from rfl) ⟨nofun, List.all_eq_true.mp (by decide)⟩
      ⟨nofun, List.all_eq_true.mp (by decide)⟩
  have point : Fits arrowVocabulary false .punctuation (String.singleton '.') :=
    .punctuation (by decide) (by rw [arrowVocabulary_symbols]; decide)
  have tag : FitsRegion arrowVocabulary true
      [⟨.keyword, "if", 1⟩, ⟨.operator, "->", 1⟩, ⟨.literal, "1.5", 1⟩, ⟨.operator, "%", 1⟩] :=
    .cons (.keyword isIf rfl (by decide)) (.cons (known "->" (by decide)) (.cons number (.cons (known "%" (by decide)) .nil)))
  have expression : FitsRegion arrowVocabulary false
      [⟨.identifier, "if", 1⟩, ⟨.punctuation, ".", 1⟩, ⟨.string, "it's \\ %\x7d", 1⟩, ⟨.operator, "-", 1⟩] :=
    .cons (.identifier isIf (by decide) (by decide) rfl)
      (.cons point (.cons (.string _) (.cons (known "-" (by decide)) .nil)))
  have shaped : Shaped arrowVocabulary arrowTokens :=
    .text (by decide) (by decide) (by decide +kernel) (.tag tag (.expression expression .eof))
  exact ⟨arrowVocabulary_separable, tokenize_print rfl built arrowVocabulary_separable (.inr rfl) .around shaped⟩

end

end Source

end Templating
