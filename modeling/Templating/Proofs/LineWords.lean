import Templating.Proofs.SourceSplitting

/-! # Lines as words

Lines are counted in words of 32 bits, which wrap around behind a source that has more lines than a word can say. How lines
are counted decides nothing else: counting without an end and taking the words of the lines that come out gives the same
tokens and the same failure.
-/

namespace Templating

/-- A token with its line as a word. -/
def Token.word (token : Token) : Token :=
  { token with line := token.line % UInt32.size }

theorem Token.word_eq {token : Token} (small : token.line < UInt32.size) : token.word = token := by
  rw [word, Nat.mod_eq_of_lt small]

namespace Source

/-- A failure with its line as a word. -/
def LexError.word (e : LexError) : LexError :=
  { e with line := e.line % UInt32.size }

theorem LexError.word_eq {e : LexError} (small : e.line < UInt32.size) : e.word = e := by
  rw [word, Nat.mod_eq_of_lt small]

/-- What is read, with its lines as words. -/
def inWords {α : Type} (word : α → α) : Except LexError α → Except LexError α
  | .ok a => .ok (word a)
  | .error e => .error e.word

/-- A token of a region with its line as a word. -/
def Lexeme.word (lexeme : Lexeme) : Lexeme :=
  { lexeme with token := lexeme.token.word }

/-- The end of a region with its lines as words. -/
def RegionEnd.word (done : RegionEnd) : RegionEnd :=
  { done with tokens := done.tokens.map Token.word, line := done.line % UInt32.size }

/-- The line behind a text, however many line feeds it holds. -/
def plainBehind (line count : Nat) : Nat :=
  line + count

/-- A way to count lines whose words are the words that are counted, up to so many line feeds at once. -/
def CountsWords (sum : Nat → Nat → Nat) (most : Nat) : Prop :=
  ∀ line count, count ≤ most → wordBehind (line % UInt32.size) count = sum line count % UInt32.size

namespace CountsWords

variable {sum : Nat → Nat → Nat} {most fewer : Nat}

theorem of_le (counts : CountsWords sum most) (le : fewer ≤ most) : CountsWords sum fewer :=
  fun line count within => counts line count (within.trans le)

theorem lineBehind (most : Nat) : CountsWords lineBehind most := by
  intro line count _
  simp only [wordBehind, Source.lineBehind, Nat.mod_add_mod]

theorem plainBehind (small : most < UInt32.size) : CountsWords plainBehind most := by
  intro line count within
  have all : min count (UInt32.size - 1) = count := Nat.min_eq_left (by omega)
  simp only [wordBehind, Source.lineBehind, all, Nat.mod_add_mod, Source.plainBehind]

end CountsWords

section

variable {sum : Nat → Nat → Nat} {v : Vocabulary} {startsTag : Bool} {line : Nat} {text : List Char}

theorem countLines_append (front behind : List Char) :
    countLines (front ++ behind) = countLines front + countLines behind :=
  List.count_append ..

theorem countLines_le_of_sublist {front whole : List Char} (sublist : front.Sublist whole) :
    countLines front ≤ countLines whole :=
  sublist.count_le _

theorem lines_readQuoted {quote : Char} {value rest : List Char} {lines : Nat}
    (found : readQuoted quote text = some (value, lines, rest)) : lines + countLines rest ≤ countLines text := by
  fun_induction readQuoted quote text generalizing value lines rest with
  | case1 => cases found
  | case2 => cases found
  | case3 c tail ih =>
      obtain ⟨⟨value, lines, rest⟩, inner, ⟨⟩⟩ := Option.map_eq_some_iff.mp found
      have fewer := ih inner
      have split : countLines ('\\' :: c :: tail) = countLines ['\\', c] + countLines tail :=
        countLines_append ['\\', c] tail
      have one : countLines ['\\', c] = countLines [c] := List.count_cons_of_ne (by decide)
      omega
  | case4 tail =>
      cases found
      exact (Nat.zero_add _).trans_le (countLines_le_of_sublist (List.sublist_cons_self _ _))
  | case5 c tail _ _ _ ih =>
      obtain ⟨⟨value, lines, rest⟩, inner, ⟨⟩⟩ := Option.map_eq_some_iff.mp found
      have fewer := ih inner
      have split : countLines (c :: tail) = countLines [c] + countLines tail := countLines_append [c] tail
      omega

theorem lines_of_readToken {first : Char} {more : List Char} {lexeme : Lexeme}
    (read : readToken v startsTag line first more = .ok lexeme) :
    lexeme.lines + countLines lexeme.rest ≤ countLines (first :: more) := by
  have fewer := countLines_le_of_sublist (readToken_spec read).1.sublist
  simp only [readToken] at read
  split at read
  · split at read <;> cases read
    rename_i found
    exact (lines_readQuoted found).trans (countLines_le_of_sublist (List.sublist_cons_self _ _))
  split at read
  · cases read
    exact (Nat.zero_add _).trans_le fewer
  split at read
  · cases read
    exact (Nat.zero_add _).trans_le fewer
  split at read
  · cases read
    exact (Nat.zero_add _).trans_le fewer
  · split at read <;> cases read
    exact (Nat.zero_add _).trans_le fewer

theorem readToken_word (v : Vocabulary) (startsTag : Bool) (line : Nat) (first : Char) (more : List Char) :
    readToken v startsTag (line % UInt32.size) first more = inWords Lexeme.word (readToken v startsTag line first more) := by
  simp only [readToken]
  split
  · split <;> rfl
  split
  · rfl
  split
  · rfl
  split
  · rfl
  · split <;> rfl

theorem behindMark_suffix (d : Delimiters) (text : List Char) : behindMark d text <:+ text :=
  ⟨_, trimMark_append _ _⟩

theorem readRegion_word (counts : CountsWords sum (countLines text)) (close : String) (closer : TokenKind)
    (unterminated : LexError) (startsTag : Bool) (line : Nat) :
    readRegion wordBehind v close closer unterminated.word startsTag (line % UInt32.size) text =
      inWords RegionEnd.word (readRegion sum v close closer unterminated startsTag line text) := by
  induction size : text.length using Nat.strong_induction_on generalizing text startsTag line with
  | _ _ ih =>
      subst size
      have blanks := counts line _ (countLines_le_of_sublist (List.takeWhile_sublist Text.isBlank))
      have fewer := countLines_le_of_sublist (List.dropWhile_sublist Text.isBlank (l := text))
      have shorter := length_dropWhile_le Text.isBlank text
      rw [readRegion_eq, readRegion_eq]
      dsimp only
      rw [blanks]
      generalize sum line (countLines (text.takeWhile Text.isBlank)) = line
      change countLines (Text.trimStart text) ≤ _ at fewer
      change (Text.trimStart text).length ≤ _ at shorter
      cases here : Text.trimStart text with
      | nil => rfl
      | cons first more =>
          dsimp only
          cases closed? v.delimiters close (first :: more) with
          | some found => rfl
          | none =>
              dsimp only
              rw [readToken_word]
              cases read : readToken v startsTag line first more with
              | error e => rfl
              | ok lexeme =>
                  have lines := lines_of_readToken read
                  have room := length_readToken read
                  rw [here] at fewer shorter
                  have behind : CountsWords sum (countLines lexeme.rest) := counts.of_le (by omega)
                  have next : readRegion wordBehind v close closer unterminated.word false
                      (wordBehind (line % UInt32.size) lexeme.lines) lexeme.rest = inWords RegionEnd.word
                        (readRegion sum v close closer unterminated false (sum line lexeme.lines) lexeme.rest) := by
                    rw [counts line _ (by omega), ih _ (by omega) behind _ _ rfl]
                  dsimp only [inWords, Lexeme.word]
                  rw [next]
                  cases readRegion sum v close closer unterminated false (sum line lexeme.lines) lexeme.rest <;> rfl

theorem readSection_word (counts : CountsWords sum (countLines text)) (opener : Opener) (unterminated : LexError)
    (line : Nat) :
    readSection wordBehind v opener unterminated.word (line % UInt32.size) text =
      inWords RegionEnd.word (readSection sum v opener unterminated line text) := by
  unfold readSection
  cases opener.region with
  | comment =>
      dsimp only [skipComment]
      cases offsetOf? opener.closing.toList text with
      | none => rfl
      | some size =>
          dsimp only
          rw [counts line _ (countLines_le_of_sublist (List.take_sublist _ _))]
          rfl
  | tag =>
      dsimp only
      rw [readRegion_word counts]
      cases readRegion sum v opener.closing .tagEnd unterminated true line text <;> rfl
  | expression =>
      dsimp only
      rw [readRegion_word counts]
      cases readRegion sum v opener.closing .expressionEnd unterminated false line text <;> rfl

theorem textTokens_word (counts : CountsWords sum (countLines text)) (line : Nat) (trimsStart trimsEnd : Bool) :
    textTokens wordBehind (line % UInt32.size) trimsStart trimsEnd text =
      (textTokens sum line trimsStart trimsEnd text).map Token.word := by
  have blanks := counts line _ (countLines_le_of_sublist (List.takeWhile_sublist Text.isBlank))
  unfold textTokens
  dsimp only
  rw [blanks]
  generalize (if trimsEnd then _ else _ : List Char) = kept
  split
  · rfl
  · cases trimsStart <;> rfl

theorem scan_word {unread : List Char} (counts : CountsWords sum (countLines unread)) (finders : List Finder)
    (position line : Nat) (trims : Bool) :
    scan wordBehind v finders position (line % UInt32.size) trims unread =
      inWords (List.map Token.word) (scan sum v finders position line trims unread) := by
  induction size : unread.length using Nat.strong_induction_on generalizing unread finders position line trims with
  | _ _ ih =>
      subst size
      rw [scan, scan]
      by_cases nothing : unread.isEmpty = true
      · rw [if_pos nothing, if_pos nothing]
        rfl
      rw [if_neg nothing, if_neg nothing]
      cases chooseOpener finders position unread with
      | none =>
          dsimp only
          rw [textTokens_word counts, counts line _ (Nat.le_refl _)]
          simp only [inWords, List.map_append]
          rfl
      | some chosen =>
          obtain ⟨place, opener⟩ := chosen
          dsimp only
          have opened := List.drop_sublist (place - position) unread
          have front := List.take_sublist (place - position) unread
          generalize unread.drop (place - position) = region at opened ⊢
          generalize unread.take (place - position) = before at front ⊢
          obtain ⟨inside, marked⟩ : ∃ inside, inside = behindMark v.delimiters (region.drop opener.opening.length) := ⟨_, rfl⟩
          have within : inside.Sublist unread :=
            marked ▸ (behindMark_suffix _ _).sublist.trans ((List.drop_sublist _ _).trans opened)
          have opening : LexError.atPlace (.unterminatedRegion opener.region)
              (sum line (countLines before) % UInt32.size) region =
              (LexError.atPlace (.unterminatedRegion opener.region) (sum line (countLines before)) region).word :=
            rfl
          unfold behindMark at marked
          rw [← marked, counts line _ (countLines_le_of_sublist front), opening,
            readSection_word (counts.of_le (countLines_le_of_sublist within)),
            textTokens_word (counts.of_le (countLines_le_of_sublist front))]
          generalize LexError.atPlace _ _ _ = unterminated
          cases read : readSection sum v opener unterminated (sum line (countLines before)) inside with
          | error e => rfl
          | ok done =>
              dsimp only [inWords, RegionEnd.word]
              split
              · rename_i shorter
                obtain ⟨_, -, -, -, -, ends, -⟩ := exists_section false read
                have suffix : done.rest <:+ inside := ends ▸ List.suffix_append _ _
                rw [ih _ shorter (counts.of_le (countLines_le_of_sublist (suffix.sublist.trans within))) _ _ _ _ rfl]
                cases scan sum v _ _ done.line done.trims done.rest with
                | error e => rfl
                | ok later => simp only [inWords, List.map_append, bind, Except.bind, pure, Except.pure]
              · simp only [List.map_append]

/-- The tokens of a source are those of any such count, with their lines as words. -/
theorem tokenize_word {source : String} (counts : CountsWords sum (countLines source.toList)) :
    tokenize v source = inWords (List.map Token.word) (tokenizeBy sum v source) :=
  scan_word counts _ 0 1 false

end

end Source

end Templating
