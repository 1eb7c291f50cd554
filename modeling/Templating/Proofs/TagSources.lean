import Templating.Proofs.AliasWriting
import Templating.Proofs.TokenPlaces

/-! # Sources of tags

The tokens of a source that is nothing but tags on one line. What is inside a tag is put together token by token, so a word
in it may be any word.
-/

namespace Templating

namespace Source

variable {v : Vocabulary} {startsTag : Bool} {first : Char} {more behind text : List Char} {value : String}
  {faces : List (TokenKind × String)}

/-- The default delimiters of tags. -/
def tagOpener : Opener :=
  ⟨.tag, "\x7b%", "%\x7d"⟩

/-- Behind blanks, a text holds the rest of a tag: the tokens with the given faces, and the closer behind them. -/
def HoldsTag (v : Vocabulary) (startsTag : Bool) (text : List Char) (faces : List (TokenKind × String)) : Prop :=
  ∀ (unterminated : LexError) (line : Nat) (gap rest : List Char), (∀ c ∈ gap, Text.isBlank c = true) → ∃ done,
    readRegion wordBehind v tagOpener.closing .tagEnd unterminated startsTag line (gap ++ (text ++ rest)) = .ok done ∧
      done.tokens.map Token.face = faces ++ [(.tagEnd, "")] ∧ done.trims = false ∧ done.rest = rest

theorem tagOpener_mem : tagOpener ∈ openers {} :=
  List.mem_cons_self

theorem tagCloser_mem (plain : v.delimiters = {}) :
    tagOpener.closing ∈ [v.delimiters.tag.closing, v.delimiters.expression.closing] := by
  rw [plain]
  exact List.mem_cons_self

namespace HoldsTag

theorem close (plain : v.delimiters = {}) : HoldsTag v startsTag tagOpener.closing.toList [] := by
  intro unterminated line gap rest blanks
  obtain ⟨line', read⟩ :=
    readRegion_end plain .tagEnd unterminated (tagCloser_mem plain) startsTag line blanks rest
  exact ⟨_, read, rfl, rfl, rfl⟩

theorem space (holds : HoldsTag v startsTag text faces) : HoldsTag v startsTag (' ' :: text) faces := by
  intro unterminated line gap rest blanks
  have further : ∀ c ∈ gap ++ [' '], Text.isBlank c = true := by
    simpa [or_imp, forall_and, isBlank_space] using blanks
  simpa using holds unterminated line (gap ++ [' ']) rest further

theorem token {kind : TokenKind} (plain : v.delimiters = {}) (notBlank : Text.isBlank first = false)
    (noCloser : first ∉ closerStarts)
    (read : ∀ line rest, ∃ lines,
      readToken v startsTag line first (more ++ rest) = .ok ⟨⟨kind, value, line⟩, lines, behind ++ rest⟩)
    (later : HoldsTag v false behind faces) : HoldsTag v startsTag (first :: more) ((kind, value) :: faces) := by
  intro unterminated line gap rest blanks
  have here : Text.trimStart (gap ++ (first :: more ++ rest)) = first :: (more ++ rest) := by
    rw [trimStart_append blanks, List.cons_append, trimStart_of_head notBlank]
  have goesOn : closed? v.delimiters tagOpener.closing (first :: (more ++ rest)) = none :=
    closed?_eq_none_iff.mpr (open_of_head plain noCloser _ (tagCloser_mem plain))
  obtain ⟨line', line'', step⟩ :=
    readRegion_token .tagEnd unterminated line here goesOn fun line => read line rest
  obtain ⟨done, further, tokens, untrimmed, left⟩ := later unterminated line'' [] rest (List.forall_mem_nil _)
  rw [List.nil_append] at further
  refine ⟨{ done with tokens := ⟨kind, value, line'⟩ :: done.tokens }, ?_, ?_, untrimmed, left⟩
  · rw [step, further]
    rfl
  · rw [List.map_cons, tokens]
    rfl

theorem word {stop : Char} {kind : TokenKind} (plain : v.delimiters = {}) (isWord : IsWord value)
    (ofKind : wordKind v startsTag value = kind) (ends : continuesWord stop = false)
    (later : HoldsTag v false (stop :: behind) faces) :
    HoldsTag v startsTag (value.toList ++ stop :: behind) ((kind, value) :: faces) := by
  obtain ⟨first, more, shape, starts, continues⟩ := isWord
  obtain ⟨notBlank, noDigit, noDouble, noSingle, noCloser⟩ := startsWord_facts starts
  have same : String.ofList (first :: more) = value := by
    rw [← shape, String.ofList_toList]
  rw [shape]
  refine token plain notBlank noCloser (fun line rest => ⟨0, ?_⟩) later
  have along : more ++ stop :: behind ++ rest = more ++ stop :: (behind ++ rest) := by simp
  obtain ⟨taken, dropped⟩ := takeWhile_before (behind ++ rest) continues ends
  simp [readToken, along, noDouble, noSingle, noDigit, starts, taken, dropped, same, ofKind]

theorem mark (plain : v.delimiters = {}) (known : first ∈ punctuation)
    (noSymbol : ∀ rest, symbolAt? v (first :: (behind ++ rest)) = none) (later : HoldsTag v false behind faces) :
    HoldsTag v startsTag (first :: behind) ((.punctuation, String.singleton first) :: faces) := by
  obtain ⟨notBlank, noCloser, noDouble, noSingle, noDigit, noWord⟩ := punctuation_facts known
  refine token plain notBlank noCloser (fun line rest => ⟨0, ?_⟩) later
  simp [readToken, noDouble, noSingle, noDigit, noWord, noSymbol, known]

theorem number {stop : Char} (plain : v.delimiters = {}) (digits : IsDigits value.toList)
    (isBlank : Text.isBlank stop = true) (later : HoldsTag v false (stop :: behind) faces) :
    HoldsTag v startsTag (value.toList ++ stop :: behind) ((.literal, value) :: faces) := by
  obtain ⟨first, more, shape⟩ := List.exists_cons_of_ne_nil digits.1
  have digit : first.isDigit = true := digits.2 first (by simp [shape])
  obtain ⟨notBlank, noDouble, noSingle, noCloser⟩ := isDigit_facts digit
  have same : String.ofList (first :: more) = value := by
    rw [← shape, String.ofList_toList]
  rw [shape] at digits ⊢
  refine token plain notBlank noCloser (fun line rest => ⟨0, ?_⟩) later
  have read := readNumber_whole digits stop (behind ++ rest) isBlank
  simp only [List.cons_append] at read
  simp [readToken, noDouble, noSingle, digit, read, same]

end HoldsTag

/-- A source of tags with nothing between them. -/
def tagSource (tags : List (List Char)) : List Char :=
  tags.flatMap fun text => tagOpener.opening.toList ++ text

/-- The faces of a tag with its delimiters. -/
def tagFaces (faces : List (TokenKind × String)) : List (TokenKind × String) :=
  (.tagStart, "") :: faces ++ [(.tagEnd, "")]

theorem scan_tags (plain : v.delimiters = {}) {tags : List (List Char)} {faces : List (List (TokenKind × String))}
    (each : List.Forall₂ (fun text faces => HoldsTag v true text faces ∧ text.head? ≠ some '-') tags faces) :
    ∀ finders position line, Tracks v.delimiters finders position (tagSource tags) →
      ∃ tokens, scan wordBehind v finders position line false (tagSource tags) = .ok tokens ∧
        tokens.map Token.face = faces.flatMap tagFaces ++ [(.eof, "")] := by
  induction each with
  | nil =>
      intro finders position line _
      exact ⟨[.eof line], by rw [scan]; rfl, rfl⟩
  | @cons text tagTokens tags faces one each ih =>
      obtain ⟨holds, unmarked⟩ := one
      intro finders position line tracks
      have some_char : tagOpener.opening.toList ≠ [] := by decide
      have split : tagSource (text :: tags) = [] ++ (tagOpener.opening.toList ++ (text ++ tagSource tags)) := by
        simp [tagSource]
      obtain ⟨opens, only⟩ := (clear_nil _ _).opens tagOpener_mem (text ++ tagSource tags)
      rw [← plain] at opens only
      have region : ∀ unterminated line, ∃ done,
          readSection wordBehind v tagOpener unterminated line (text ++ tagSource tags) = .ok done ∧
            done.tokens.map Token.face = tagFaces tagTokens ∧ done.trims = false ∧ done.rest = tagSource tags := by
        intro unterminated line
        obtain ⟨done, read, found, untrimmed, left⟩ :=
          holds unterminated line [] (tagSource tags) (List.forall_mem_nil _)
        refine ⟨{ done with tokens := ⟨.tagStart, "", line⟩ :: done.tokens }, ?_, ?_, untrimmed, left⟩
        · rw [List.nil_append] at read
          show readRegion wordBehind v tagOpener.closing .tagEnd unterminated true line _ >>= _ = _
          rw [read]
          rfl
        · rw [List.map_cons, found]
          rfl
      have behindOpener : (text ++ tagSource tags).head? ≠ some v.delimiters.trim := by
        rw [plain]
        cases text with
        | nil =>
            cases tags with
            | nil => simp [tagSource]
            | cons other tags => exact Option.some_inj.not.mpr (by decide)
        | cons c text => exact unmarked
      rw [split] at tracks ⊢
      obtain ⟨tokens, scanned, found⟩ := scan_region tracks (tracks.chooseOpener_eq_some opens only) some_char behindOpener
        region (List.suffix_append _ _) ih
      exact ⟨tokens, scanned, by rw [found]; simp [textFaces]⟩

/-- The tokens of a source without a line feed. -/
def onFirstLine (faces : List (TokenKind × String)) : List Token :=
  faces.map fun face => ⟨face.1, face.2, 1⟩

theorem Standard.oneLine (standard : Standard v) : OneLine v := by
  refine ⟨?_, ?_, ?_, fun symbol known feed => absurd (standard.unbroken symbol known _ feed) (by decide)⟩
  all_goals
    rw [standard.plain]
    decide

theorem eq_onFirstLine (standard : Standard v) {source : String} {tokens : List Token} (noFeed : '\n' ∉ source.toList)
    (tokenized : tokenize v source = .ok tokens) : tokens = onFirstLine (tokens.map Token.face) := by
  have usable : v.delimiters.fault? = none := by
    rw [standard.plain]
    rfl
  have few : 1 + countLines source.toList < UInt32.size := by
    rw [countLines_eq_zero noFeed]
    decide
  obtain ⟨places, lines⟩ := onLines_of_tokenize usable standard.oneLine few tokenized
  have first : ∀ token ∈ tokens, token.line = 1 := by
    intro token member
    obtain ⟨place, -, front, split, line⟩ := exists_of_mem_forall₂ lines.flip member
    have nowhere : '\n' ∉ front := fun feed => noFeed (split ▸ List.mem_append_left _ feed)
    rw [line, countLines_eq_zero nowhere]
  rw [onFirstLine, List.map_map]
  refine (List.map_id' tokens).symm.trans (List.map_congr_left fun token member => ?_)
  rw [← first token member]
  rfl

theorem tokenize_tags (standard : Standard v) {source : String} {tags : List (List Char)}
    {faces : List (List (TokenKind × String))} (split : source.toList = tagSource tags) (noFeed : '\n' ∉ source.toList)
    (each : List.Forall₂ (fun text faces => HoldsTag v true text faces ∧ text.head? ≠ some '-') tags faces) :
    tokenize v source = .ok (onFirstLine (faces.flatMap tagFaces ++ [(.eof, "")])) := by
  obtain ⟨tokens, scanned, found⟩ := scan_tags standard.plain each _ 0 1 (tracks_start v.delimiters (tagSource tags))
  rw [← split] at scanned
  have tokenized : tokenize v source = .ok tokens := scanned
  rw [tokenized, eq_onFirstLine standard noFeed tokenized, found]

theorem IsWord.notMem {c : Char} (isWord : IsWord value) (noWord : continuesWord c = false) : c ∉ value.toList := by
  obtain ⟨first, more, shape, starts, continues⟩ := isWord
  have all : ∀ d ∈ value.toList, continuesWord d = true := by
    rw [shape]
    exact List.forall_mem_cons.mpr ⟨continuesWord_of_startsWord starts, continues⟩
  exact fun member => Bool.false_ne_true (noWord.symm.trans (all c member))

theorem isWord_of_all {first : Char} {more : List Char} (shape : value.toList = first :: more)
    (letters : (startsWord first && more.all continuesWord) = true) : IsWord value := by
  simp only [Bool.and_eq_true, List.all_eq_true] at letters
  exact ⟨first, more, shape, letters⟩

end Source

end Templating
