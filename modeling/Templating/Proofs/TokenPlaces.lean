import Templating.Proofs.TokenItems

/-! # The places of tokens

Every token stands somewhere in its source, and its line is one more than the line feeds in front of that place. The
same holds for the place where a source cannot be split further. Delimiters and symbols that hold line feeds of their
own would not be counted.
-/

namespace Templating.Source

variable {v : Vocabulary} {startsTag isTag : Bool} {line : Nat} {first : Char} {more text : List Char} {lexeme : Lexeme}

/-- Nothing that a tokenizer recognizes as a whole holds a line feed. -/
structure OneLine (v : Vocabulary) : Prop where
  trim : v.delimiters.trim ≠ '\n'
  openings : ∀ opener ∈ openers v.delimiters, '\n' ∉ opener.opening.toList
  closings : ∀ opener ∈ openers v.delimiters, '\n' ∉ opener.closing.toList
  symbols : ∀ symbol ∈ v.symbols, '\n' ∉ symbol.toList

/-- Reading `text` from a line on, the place where only `rest` is left is on the line `n`. -/
def OnLine (line : Nat) (text rest : List Char) (n : Nat) : Prop :=
  ∃ front, text = front ++ rest ∧ n = line + countLines front

theorem countLines_eq_zero {text : List Char} (oneLine : '\n' ∉ text) : countLines text = 0 :=
  List.count_eq_zero.mpr oneLine

namespace OnLine

variable {rest later : List Char} {n m : Nat}

theorem here (line : Nat) (text : List Char) : OnLine line text text line :=
  ⟨[], rfl, rfl⟩

theorem trans (one : OnLine line text rest n) (two : OnLine n rest later m) : OnLine line text later m := by
  obtain ⟨front, rfl, rfl⟩ := one
  obtain ⟨middle, rfl, rfl⟩ := two
  exact ⟨front ++ middle, (List.append_assoc ..).symm, by rw [countLines_append]; omega⟩

theorem append (line : Nat) (front rest : List Char) : OnLine line (front ++ rest) rest (line + countLines front) :=
  ⟨front, rfl, rfl⟩

theorem skip (line : Nat) (text rest : List Char) (oneLine : '\n' ∉ text) : OnLine line (text ++ rest) rest line :=
  ⟨text, rfl, by rw [countLines_eq_zero oneLine, Nat.add_zero]⟩

theorem trimStart (line : Nat) (text : List Char) :
    OnLine line text (Text.trimStart text) (line + countLines (text.takeWhile Text.isBlank)) :=
  ⟨text.takeWhile Text.isBlank, List.takeWhile_append_dropWhile.symm, rfl⟩

theorem dropWhile {p : Char → Bool} (oneLine : p '\n' = false) (line : Nat) (text : List Char) :
    OnLine line text (text.dropWhile p) line := by
  have skipped : '\n' ∉ text.takeWhile p := fun member => by
    rw [List.mem_takeWhile_imp member] at oneLine
    cases oneLine
  have whole := skip line (text.takeWhile p) (text.dropWhile p) skipped
  rwa [List.takeWhile_append_dropWhile] at whole

end OnLine

theorem onLine_readQuoted {quote : Char} {value rest : List Char} {lines : Nat} (isQuote : quote = '"' ∨ quote = '\'')
    (found : readQuoted quote text = some (value, lines, rest)) : OnLine line text rest (line + lines) := by
  fun_induction readQuoted quote text generalizing value lines rest line with
  | case1 => cases found
  | case2 => cases found
  | case3 c tail ih =>
      obtain ⟨⟨value, lines, rest⟩, inner, ⟨⟩⟩ := Option.map_eq_some_iff.mp found
      have escape : OnLine line ('\\' :: c :: tail) tail (line + countLines [c]) := ⟨['\\', c], rfl, rfl⟩
      rw [← Nat.add_assoc]
      exact escape.trans (ih inner)
  | case4 tail =>
      cases found
      exact .skip _ [quote] _ (by rcases isQuote with rfl | rfl <;> decide)
  | case5 c tail _ _ _ ih =>
      obtain ⟨⟨value, lines, rest⟩, inner, ⟨⟩⟩ := Option.map_eq_some_iff.mp found
      rw [← Nat.add_assoc]
      exact (OnLine.append line [c] tail).trans (ih inner)

theorem onLine_readNumber (line : Nat) (text : List Char) : OnLine line text (readNumber text).2 line := by
  have whole : OnLine line text (text.dropWhile Char.isDigit) line := .dropWhile (by decide) line text
  unfold readNumber
  dsimp only
  split
  · rename_i d later behind
    rw [behind] at whole
    split
    · have point : OnLine line ('.' :: d :: later) (d :: later) line := .skip _ ['.'] _ (by decide)
      exact (whole.trans point).trans (.dropWhile (by decide) line (d :: later))
    · rwa [behind]
  · exact whole

/-- The text behind a token is on the line that the line feeds inside the token lead to. -/
theorem onLine_of_readToken (oneLine : ∀ symbol ∈ v.symbols, '\n' ∉ symbol.toList)
    (read : readToken v startsTag line first more = .ok lexeme) :
    OnLine line (first :: more) lexeme.rest (line + lexeme.lines) := by
  have oneChar (other : first ≠ '\n') : OnLine line (first :: more) more line :=
    .skip _ [first] _ (by simpa using other.symm)
  simp only [readToken] at read
  split at read
  · rename_i isQuote
    split at read
    · rename_i found
      cases read
      have other : first ≠ '\n' := by rcases isQuote with rfl | rfl <;> decide
      exact (oneChar other).trans (onLine_readQuoted isQuote found)
    · cases read
  split at read
  · cases read
    exact onLine_readNumber line (first :: more)
  split at read
  · rename_i starts
    cases read
    have other : first ≠ '\n' := by
      rintro rfl
      exact absurd starts (by decide)
    exact (oneChar other).trans (.dropWhile (by decide) line more)
  split at read
  · rename_i symbol found
    cases read
    have stands := List.find?_some found
    rw [Bool.and_eq_true, List.isPrefixOf_iff_prefix] at stands
    obtain ⟨rest, whole⟩ := stands.2
    have known := oneLine symbol (List.mem_of_find?_eq_some found)
    rw [← whole, ← String.length_toList, List.drop_left]
    exact .skip _ _ _ known
  split at read
  · rename_i known
    cases read
    have other : first ≠ '\n' := by
      rintro rfl
      exact absurd known (by decide)
    exact oneChar other
  · cases read

/-- Each of some tokens of a region stands at the boundary behind those in front of it. -/
inductive Standing (v : Vocabulary) (close : String) (isTag : Bool) (inside : List Char) :
    List (TokenKind × String) → List (List Char) → Prop where
  | nil : Standing v close isTag inside [] []
  | snoc {faces : List (TokenKind × String)} {places : List (List Char)} {face : TokenKind × String} {place : List Char}
      (earlier : Standing v close isTag inside faces places) (reached : Boundary v close isTag inside faces place) :
      Standing v close isTag inside (faces ++ [face]) (places ++ [place])

/-- Tokens are on the lines of their places. -/
def OnLines (line : Nat) (text : List Char) : List Token → List (List Char) → Prop :=
  List.Forall₂ fun token place => OnLine line text place token.line

theorem OnLines.behind {tokens : List Token} {places : List (List Char)} {rest : List Char} {n : Nat}
    (reached : OnLine line text rest n) (lines : OnLines n rest tokens places) : OnLines line text tokens places :=
  List.Forall₂.imp (fun _ _ => reached.trans) lines

theorem OnLines.append {tokens later : List Token} {places behind : List (List Char)}
    (front : OnLines line text tokens places) (back : OnLines line text later behind) :
    OnLines line text (tokens ++ later) (places ++ behind) :=
  List.rel_append front back

theorem notMem_trimMark (oneLine : OneLine v) (present : Bool) : '\n' ∉ trimMark v.delimiters present := by
  cases present with
  | false => nofun
  | true => simpa [trimMark] using oneLine.trim.symm

/-- The tokens of a region that is read stand at boundaries, up to its closer, and are on the lines of these places. -/
theorem standing_of_readRegion {close : String} {closer : TokenKind} {unterminated : LexError} {done : RegionEnd}
    {inside : List Char} {faces : List (TokenKind × String)} {places : List (List Char)} (oneLine : OneLine v)
    (oneMark : '\n' ∉ close.toList) (earlier : Standing v close isTag inside faces places)
    (reached : Boundary v close isTag inside faces (Text.trimStart text)) (atStart : startsTag = (isTag && faces.isEmpty))
    (read : readRegion plainBehind v close closer unterminated startsTag line text = .ok done) :
    ∃ inner standing, done.tokens.map Token.face = inner ++ [(closer, "")] ∧
      Standing v close isTag inside (faces ++ inner) (places ++ standing) ∧
      OnLines line text done.tokens (standing ++ [close.toList ++ done.rest]) ∧ OnLine line text done.rest done.line := by
  induction size : text.length using Nat.strong_induction_on generalizing text faces places startsTag line done with
  | _ _ ih =>
      subst size
      have blanks := OnLine.trimStart line text
      cases regionStep_of_readRegion read with
      | @closed trims rest closes =>
          obtain ⟨same, -⟩ := closed?_eq_some closes
          rw [same, List.append_assoc] at blanks
          have marked := blanks.trans (.skip _ _ _ (notMem_trimMark oneLine trims))
          exact ⟨[], [], rfl, by simpa using earlier, .cons marked .nil, marked.trans (.skip _ _ _ oneMark)⟩
      | @token first more lexeme later here goesOn one shorter next =>
          rw [here] at reached blanks
          subst atStart
          obtain ⟨inner, standing, named, stand, lines, ended⟩ :=
            ih _ shorter (earlier.snoc reached) (reached.behind goesOn one) (by simp) next rfl
          have behind := blanks.trans (onLine_of_readToken oneLine.symbols one)
          have token : OnLine line text (first :: more) lexeme.token.line := line_of_readToken one ▸ blanks
          refine ⟨lexeme.token.face :: inner, (first :: more) :: standing, ?_, ?_, .cons token (lines.behind behind),
            behind.trans ended⟩
          · rw [List.map_cons, named, List.cons_append]
          · simpa using stand

/-- The tokens of a tag or an expression stand at its opener, at the boundaries behind it, and at its closer. -/
def Section.StandAtBoundaries (v : Vocabulary) (isTag : Bool) (s : Section) (rest : List Char)
    (places : List (List Char)) : Prop :=
  ∃ opens inner closes standing, s.tokens = opens :: inner ++ [closes] ∧
    places = (s.written v.delimiters ++ rest) :: standing ++ [s.opener.closing.toList ++ rest] ∧
    Standing v s.opener.closing isTag (s.content v.delimiters ++ s.opener.closing.toList ++ rest) inner standing

/-- The tokens of a section, in front of the rest of its source, stand at these places; a comment has no tokens. -/
def Section.StandAt (v : Vocabulary) (s : Section) (rest : List Char) (places : List (List Char)) : Prop :=
  match s.opener.region with
  | .comment => places = []
  | .tag => s.StandAtBoundaries v true rest places
  | .expression => s.StandAtBoundaries v false rest places

theorem standAt_of_readSection {s : Section} {inside : List Char} {unterminated : LexError} {done : RegionEnd}
    (oneLine : OneLine v) (member : s.opener ∈ openers v.delimiters) (faces : s.tokens = done.tokens.map Token.face)
    (whole : inside = s.content v.delimiters ++ s.opener.closing.toList ++ done.rest)
    (read : readSection plainBehind v s.opener unterminated line inside = .ok done) :
    ∃ places, s.StandAt v done.rest places ∧
      OnLines line (s.written v.delimiters ++ done.rest) done.tokens places ∧
      OnLine line (s.written v.delimiters ++ done.rest) done.rest done.line := by
  have oneMark := oneLine.closings _ member
  have behindOpener : OnLine line (s.written v.delimiters ++ done.rest) inside line := by
    rw [Section.written, Section.behindOpener, List.append_assoc, List.append_assoc, whole]
    exact (OnLine.skip _ _ _ (oneLine.openings _ member)).trans (.skip _ _ _ (notMem_trimMark oneLine _))
  -- Tags and expressions differ only in what may start them and in the kinds of their delimiters.
  have atBoundaries {opens closes : TokenKind} {isTag : Bool} {ended : RegionEnd}
      (tokens : s.tokens = (opens, "") :: ended.tokens.map Token.face) (rest : ended.rest = done.rest)
      (regionRead : readRegion plainBehind v s.opener.closing closes unterminated isTag line inside = .ok ended) :
      ∃ places, s.StandAtBoundaries v isTag done.rest places ∧
        OnLines line (s.written v.delimiters ++ done.rest) (⟨opens, "", line⟩ :: ended.tokens) places ∧
        OnLine line (s.written v.delimiters ++ done.rest) done.rest ended.line := by
    obtain ⟨inner, standing, named, stand, lines, ended⟩ :=
      standing_of_readRegion oneLine oneMark .nil .start (Bool.and_true _).symm regionRead
    rw [rest] at lines ended
    rw [whole] at stand
    refine ⟨_, ⟨_, inner, _, standing, by rw [tokens, named, List.cons_append], rfl, stand⟩,
      .cons (.here ..) (lines.behind behindOpener), behindOpener.trans ended⟩
  unfold readSection at read
  unfold Section.StandAt
  cases kind : s.opener.region with
  | tag =>
      rw [kind] at read
      obtain ⟨ended, regionRead, ⟨⟩⟩ := bind_eq_ok.mp read
      exact atBoundaries faces rfl regionRead
  | expression =>
      rw [kind] at read
      obtain ⟨ended, regionRead, ⟨⟩⟩ := bind_eq_ok.mp read
      exact atBoundaries faces rfl regionRead
  | comment =>
      rw [kind] at read
      dsimp only [skipComment] at read
      split at read
      · cases read
      rename_i size found
      cases read
      obtain ⟨⟨behind, stands⟩, -⟩ := offsetOf?_eq_some_iff.mp found
      have split : inside = inside.take size ++ (s.opener.closing.toList ++ behind) := by
        rw [stands, List.take_append_drop]
      have rest : inside.drop (size + s.opener.closing.length) = behind := by
        rw [← List.drop_drop, ← stands, ← String.length_toList, List.drop_left]
      have body : OnLine line inside (s.opener.closing.toList ++ behind) (plainBehind line (countLines (inside.take size))) :=
        ⟨_, split, rfl⟩
      refine ⟨[], rfl, .nil, ?_⟩
      dsimp only at behindOpener ⊢
      rw [rest] at behindOpener ⊢
      exact (behindOpener.trans body).trans (.skip _ _ _ oneMark)

/-- Where the text between two sections stands from which blanks may be removed, in front of `behind`: at the first
character that is kept. -/
def textPlaces (trimsStart trimsEnd : Bool) (text behind : List Char) : List (List Char) :=
  if (keptText trimsStart trimsEnd text).isEmpty then []
  else [(if trimsStart then Text.trimStart text else text) ++ behind]

theorem onLines_textTokens (line : Nat) (trimsStart trimsEnd : Bool) (text behind : List Char) :
    OnLines line (text ++ behind) (textTokens plainBehind line trimsStart trimsEnd text)
      (textPlaces trimsStart trimsEnd text behind) := by
  have kept : OnLine line (text ++ behind) ((if trimsStart then Text.trimStart text else text) ++ behind)
      (if trimsStart then plainBehind line (countLines (text.takeWhile Text.isBlank)) else line) := by
    cases trimsStart with
    | false => exact .here ..
    | true =>
        refine ⟨text.takeWhile Text.isBlank, ?_, rfl⟩
        rw [if_pos rfl, Text.trimStart, ← List.append_assoc, List.takeWhile_append_dropWhile]
  unfold textTokens textPlaces keptText
  dsimp only
  generalize (if trimsEnd then _ else _ : List Char) = left
  cases left with
  | nil => exact .nil
  | cons c left => exact .cons kept .nil

/-- The tokens of a source and their places. Texts and sections follow each other as in `Splits`; the last token stands
at the end. -/
inductive Places (v : Vocabulary) : Bool → List Char → List (TokenKind × String) → List (List Char) → Prop where
  | last {trims : Bool} {text : List Char}
      (nowhere : ∀ opener ∈ openers v.delimiters, ∀ place, ¬ StandsAt opener.opening.toList text place) :
      Places v trims text (textFaces (keptText trims false text) ++ [(.eof, "")]) (textPlaces trims false text [] ++ [[]])
  | region {trims : Bool} {text rest : List Char} {s : Section} {faces : List (TokenKind × String)}
      {standing places : List (List Char)}
      (opens : Opens (openers v.delimiters) (text ++ s.written v.delimiters ++ rest) text.length s.opener)
      (marked : s.trimsBefore = true ↔ (s.behindOpener v.delimiters ++ rest).head? = some v.delimiters.trim)
      (ends : s.Ends v rest) (stand : s.StandAt v rest standing) (more : Places v s.trimsBehind rest faces places) :
      Places v trims (text ++ s.written v.delimiters ++ rest)
        (textFaces (keptText trims s.trimsBefore text) ++ s.tokens ++ faces)
        (textPlaces trims s.trimsBefore text (s.written v.delimiters ++ rest) ++ standing ++ places)

theorem places_of_scan {finders : List Finder} {position : Nat} {trims : Bool} {unread : List Char}
    {tokens : List Token} (usable : v.delimiters.fault? = none) (oneLine : OneLine v)
    (tracks : Tracks v.delimiters finders position unread)
    (scanned : scan plainBehind v finders position line trims unread = .ok tokens) :
    ∃ places, Places v trims unread (tokens.map Token.face) places ∧ OnLines line unread tokens places := by
  induction size : unread.length using Nat.strong_induction_on
    generalizing unread finders position line trims tokens with
  | _ _ ih =>
      subst size
      cases scanStep_of_scan scanned with
      | done nothing =>
          subst nothing
          have last := @Places.last v trims []
            fun opener member place stands => opening_ne_nil usable member (by simpa [StandsAt] using stands)
          have empty : keptText trims false [] = [] := by cases trims <;> rfl
          rw [textPlaces, empty] at last
          exact ⟨[[]], last, .cons (.here ..) .nil⟩
      | text nowhere =>
          refine ⟨textPlaces trims false unread [] ++ [[]], ?_, ?_⟩
          · rw [List.map_append, face_textTokens]
            exact .last (tracks.of_chooseOpener_eq_none nowhere)
          · have texts := onLines_textTokens line trims false unread []
            have ending := OnLine.append line unread []
            rw [List.append_nil] at texts ending
            exact texts.append (.cons ending .nil)
      | region chosen isBefore isBehind read shorter next =>
          rename_i place opener text behind unterminated done later
          obtain ⟨s, rfl, before, trimmed, faces, ends, inside, behindOpener, opens, split, -⟩ :=
            section_of_chosen usable tracks chosen isBehind read
          rw [← isBefore] at opens split
          have further := tracks.behind (split ▸ List.suffix_append _ done.rest)
          obtain ⟨places, stand, lines⟩ := ih _ shorter further next rfl
          obtain ⟨standing, standAt, sectionLines, ended⟩ :=
            standAt_of_readSection oneLine opens.member faces inside read
          have front := OnLine.append line text (s.written v.delimiters ++ done.rest)
          have texts := onLines_textTokens line trims (behind.head? == some v.delimiters.trim) text
            (s.written v.delimiters ++ done.rest)
          rw [← List.append_assoc, ← split] at front texts
          refine ⟨_, ?_, (texts.append (sectionLines.behind front)).append (lines.behind (front.trans ended))⟩
          rw [List.map_append, List.map_append, face_textTokens, ← faces, ← before, split]
          refine .region (split ▸ opens) ?_ ends standAt (trimmed ▸ stand)
          rw [← behindOpener, before, beq_iff_eq]
      | stuck chosen _ isBehind read noShorter =>
          obtain ⟨-, -, -, -, -, -, -, -, -, -, shorter⟩ := section_of_chosen usable tracks chosen isBehind read
          exact absurd shorter noShorter

/-- No token starts with the first of some characters. -/
structure StartsNothing (v : Vocabulary) (first : Char) (more : List Char) : Prop where
  noQuote : ¬ (first = '"' ∨ first = '\'')
  noDigit : first.isDigit = false
  noWord : startsWord first = false
  noSymbol : symbolAt? v (first :: more) = none
  noPunctuation : first ∉ punctuation

/-- What is wrong inside a region that starts with `opened`, and where: its closer never comes, a text in quotes does not
end, or a character starts no token. -/
inductive RegionFault (v : Vocabulary) (close : String) (isTag : Bool) (region : Region) (opened inside : List Char) :
    LexCause → List Char → Prop where
  | unclosed {faces : List (TokenKind × String)} (reached : Boundary v close isTag inside faces []) :
      RegionFault v close isTag region opened inside (.unterminatedRegion region) opened
  | quoted {faces : List (TokenKind × String)} {quote : Char} {more : List Char}
      (reached : Boundary v close isTag inside faces (quote :: more)) (goesOn : ¬ ClosesAt v.delimiters close (quote :: more))
      (isQuote : quote = '"' ∨ quote = '\'') (endless : readQuoted quote more = none) :
      RegionFault v close isTag region opened inside .unterminatedString (quote :: more)
  | character {faces : List (TokenKind × String)} {first : Char} {more : List Char}
      (reached : Boundary v close isTag inside faces (first :: more))
      (goesOn : ¬ ClosesAt v.delimiters close (first :: more)) (startsNothing : StartsNothing v first more) :
      RegionFault v close isTag region opened inside (.invalidCharacter first) (first :: more)

/-- What is wrong with the section of an opener, behind the trim mark of the opener. -/
def SectionFault (v : Vocabulary) (opener : Opener) (opened inside : List Char) (cause : LexCause)
    (place : List Char) : Prop :=
  match opener.region with
  | .comment => cause = .unterminatedRegion .comment ∧ place = opened ∧
      ∀ offset, ¬ StandsAt opener.closing.toList inside offset
  | .tag => RegionFault v opener.closing true .tag opened inside cause place
  | .expression => RegionFault v opener.closing false .expression opened inside cause place

/-- What is wrong with a source, and where: sections that can be read, and then one that cannot. -/
inductive Faults (v : Vocabulary) : List Char → LexCause → List Char → Prop where
  | here {text behind place : List Char} {opener : Opener} {cause : LexCause}
      (opens : Opens (openers v.delimiters) (text ++ (opener.opening.toList ++ behind)) text.length opener)
      (fault : SectionFault v opener (opener.opening.toList ++ behind) (behindMark v.delimiters behind) cause place) :
      Faults v (text ++ (opener.opening.toList ++ behind)) cause place
  | later {text rest place : List Char} {s : Section} {cause : LexCause}
      (opens : Opens (openers v.delimiters) (text ++ s.written v.delimiters ++ rest) text.length s.opener)
      (marked : s.trimsBefore = true ↔ (s.behindOpener v.delimiters ++ rest).head? = some v.delimiters.trim)
      (ends : s.Ends v rest) (more : Faults v rest cause place) :
      Faults v (text ++ s.written v.delimiters ++ rest) cause place

/-- A failure shows the line and the first characters of its place. -/
structure Shows (line : Nat) (text place : List Char) (e : LexError) : Prop where
  onLine : OnLine line text place e.line
  fragment : e.fragment = String.ofList (place.take 24)

theorem Shows.behind {rest place : List Char} {n : Nat} {e : LexError} (reached : OnLine line text rest n)
    (shown : Shows n rest place e) : Shows line text place e :=
  ⟨reached.trans shown.onLine, shown.fragment⟩

theorem SectionFault.ne_nil {opener : Opener} {behind inside place : List Char} {cause : LexCause}
    (some_char : opener.opening.toList ≠ [])
    (fault : SectionFault v opener (opener.opening.toList ++ behind) inside cause place) : place ≠ [] := by
  have opened : opener.opening.toList ++ behind ≠ [] := List.append_ne_nil_of_left_ne_nil some_char _
  unfold SectionFault at fault
  split at fault
  · exact fault.2.1 ▸ opened
  · cases fault with
    | unclosed => exact opened
    | quoted | character => exact List.cons_ne_nil _ _
  · cases fault with
    | unclosed => exact opened
    | quoted | character => exact List.cons_ne_nil _ _

/-- Something is left of a source where it cannot be split further. -/
theorem Faults.ne_nil {place : List Char} {cause : LexCause} (usable : v.delimiters.fault? = none)
    (faults : Faults v text cause place) : place ≠ [] := by
  induction faults with
  | here opens fault => exact fault.ne_nil (opening_ne_nil usable opens.member)
  | later _ _ _ _ ih => exact ih

namespace OnLine

variable {rest : List Char} {n : Nat}

theorem le (onLine : OnLine line text rest n) : n ≤ line + countLines text := by
  obtain ⟨front, rfl, rfl⟩ := onLine
  rw [countLines_append]
  omega

end OnLine

theorem OnLines.map_word {tokens : List Token} {places : List (List Char)} (onLines : OnLines line text tokens places)
    (few : line + countLines text < UInt32.size) : tokens.map Token.word = tokens := by
  refine (List.map_congr_left fun token member => Token.word_eq ?_).trans (List.map_id' tokens)
  obtain ⟨place, -, onLine⟩ := exists_of_mem_forall₂ onLines.flip member
  exact (OnLine.le onLine).trans_lt few

/-- The lines of the tokens of a source that has no more lines than a word can say. -/
theorem onLines_of_tokenize {source : String} {tokens : List Token} (usable : v.delimiters.fault? = none)
    (oneLine : OneLine v) (few : 1 + countLines source.toList < UInt32.size) (tokenized : tokenize v source = .ok tokens) :
    ∃ places, OnLines 1 source.toList tokens places := by
  rw [tokenize_word (.plainBehind (by omega))] at tokenized
  cases found : tokenizeBy plainBehind v source with
  | error e =>
      rw [found] at tokenized
      cases tokenized
  | ok counted =>
      rw [found] at tokenized
      cases tokenized
      obtain ⟨places, -, onLines⟩ := places_of_scan usable oneLine (tracks_start _ _) found
      exact ⟨places, (onLines.map_word few).symm ▸ onLines⟩

end Templating.Source
