import Templating.Proofs.TokenPrinting
import Templating.Proofs.LineWords
import Templating.Registry.Operator

/-! # The items of a source

The tokens of a source are texts, tags and expressions up to the only end. What a token between delimiters may be depends
on its own text and the vocabulary, and on whether it stands right behind the opener of a tag. The lines of the tokens
never go back, as long as they are words.
-/

namespace Templating.Source

variable {v : Vocabulary} {startsTag isTag : Bool} {line : Nat} {first : Char} {more text : List Char} {lexeme : Lexeme}

/-- A token between delimiters fits, and from the text of an operator it is clear whether it is a word or a symbol. -/
structure Inner (v : Vocabulary) (startsTag : Bool) (face : TokenKind × String) : Prop where
  fits : Fits v startsTag face.1 face.2
  operator : face.1 = .operator → if isWordLike face.2 then v.isOperatorWord face.2 = true else face.2 ∈ v.symbols

/-- Only the first token between delimiters can stand right behind the opener of a tag. -/
structure Inside (v : Vocabulary) (isTag : Bool) (faces : List (TokenKind × String)) : Prop where
  head : ∀ face ∈ faces.head?, Inner v isTag face
  tail : ∀ face ∈ faces.tail, Inner v false face

theorem isWordLike_eq {value : String} (shape : value.toList = first :: more) : isWordLike value = startsWord first := by
  rw [isWordLike, shape]
  rfl

theorem fits_wordKind {value : String} (word : IsWord value) : Fits v startsTag (wordKind v startsTag value) value := by
  cases starts : startsTag && v.isKeyword value with
  | true =>
      obtain ⟨behindOpener, known⟩ := Bool.and_eq_true_iff.mp starts
      simpa [wordKind, starts] using .keyword word behindOpener known
  | false =>
      by_cases isLiteral : value ∈ literalWords
      · simpa [wordKind, starts, isLiteral] using .literal isLiteral starts
      · cases known : v.isOperatorWord value with
        | true => simpa [wordKind, starts, isLiteral, known] using .operatorWord word known isLiteral starts
        | false => simpa [wordKind, starts, isLiteral, known] using .identifier word known isLiteral starts

theorem inner_word {value : String} (word : IsWord value) : Inner v startsTag (wordKind v startsTag value, value) := by
  refine ⟨fits_wordKind word, fun isOperator => ?_⟩
  obtain ⟨first, more, shape, starts, -⟩ := word
  rw [isWordLike_eq shape, if_pos starts]
  simp only [wordKind] at isOperator
  split at isOperator
  · cases isOperator
  split at isOperator
  · cases isOperator
  split at isOperator
  · assumption
  · cases isOperator

theorem inner_string (value : String) : Inner v startsTag (.string, value) :=
  ⟨.string value, nofun⟩

theorem isDigits_takeWhile (digit : first.isDigit = true) : IsDigits ((first :: more).takeWhile Char.isDigit) := by
  refine ⟨?_, fun c member => List.mem_takeWhile_imp member⟩
  rw [List.takeWhile_cons_of_pos digit]
  exact List.cons_ne_nil _ _

theorem inner_number (digit : first.isDigit = true) :
    Inner v startsTag (.literal, String.ofList (readNumber (first :: more)).1) := by
  refine ⟨?_, nofun⟩
  have whole : IsDigits ((first :: more).takeWhile Char.isDigit) := isDigits_takeWhile digit
  unfold readNumber
  dsimp only
  split
  · rename_i next later behind
    split
    · rename_i nextDigit
      exact .fraction String.toList_ofList whole (isDigits_takeWhile nextDigit)
    · exact .whole (by rwa [String.toList_ofList])
  · exact .whole (by rwa [String.toList_ofList])

theorem inner_symbol {symbol : String} (noWord : startsWord first = false)
    (found : symbolAt? v (first :: more) = some symbol) : Inner v startsTag (.operator, symbol) := by
  have known := List.mem_of_find?_eq_some found
  have stands := List.find?_some found
  rw [Bool.and_eq_true, Bool.not_eq_true', List.isPrefixOf_iff_prefix] at stands
  obtain ⟨inhabited, front⟩ := stands
  have some_char : symbol ≠ "" := by
    rintro rfl
    cases inhabited
  rcases List.prefix_cons_iff.mp front with empty | ⟨behind, shape, -⟩
  · exact absurd (String.toList_eq_nil_iff.mp empty) some_char
  · refine ⟨.symbol known some_char, fun _ => ?_⟩
    rwa [isWordLike_eq shape, noWord, if_neg Bool.false_ne_true]

theorem inner_punctuation (known : first ∈ punctuation) (noSymbol : symbolAt? v (first :: more) = none) :
    Inner v startsTag (.punctuation, String.singleton first) := by
  refine ⟨.punctuation known fun isSymbol => ?_, nofun⟩
  have other := List.find?_eq_none.mp noSymbol _ isSymbol
  simp at other

theorem inner_of_readToken (read : readToken v startsTag line first more = .ok lexeme) :
    Inner v startsTag lexeme.token.face := by
  simp only [readToken] at read
  split at read
  · split at read
    · cases read
      exact inner_string _
    · cases read
  split at read
  · rename_i digit
    cases read
    exact inner_number digit
  split at read
  · rename_i starts
    cases read
    exact inner_word ⟨first, _, String.toList_ofList, starts, fun c member => List.mem_takeWhile_imp member⟩
  rename_i noWord
  split at read
  · rename_i symbol found
    cases read
    exact inner_symbol (Bool.eq_false_iff.mpr noWord) found
  rename_i noSymbol
  split at read
  · rename_i known
    cases read
    exact inner_punctuation (List.contains_iff_mem.mp known) noSymbol
  · cases read

theorem Boundary.inside {close : String} {inside : List Char} {faces : List (TokenKind × String)}
    (reached : Boundary v close isTag inside faces text) : Inside v isTag faces := by
  induction reached with
  | start => exact ⟨nofun, nofun⟩
  | @behind faces line first more lexeme _ _ read ih =>
      have last := inner_of_readToken read
      cases faces with
      | nil =>
          rw [List.isEmpty_nil, Bool.and_true] at last
          exact ⟨by simpa using last, nofun⟩
      | cons face faces =>
          rw [List.isEmpty_cons, Bool.and_false] at last
          refine ⟨ih.head, ?_⟩
          simp only [List.cons_append, List.tail_cons, List.forall_mem_append, List.forall_mem_singleton]
          exact ⟨ih.tail, last⟩

/-- Texts, none of them empty, tags and expressions, with an end behind them. -/
inductive Items (v : Vocabulary) : List (TokenKind × String) → Prop where
  | eof : Items v [(.eof, "")]
  | text {value : String} {rest : List (TokenKind × String)} (inhabited : value ≠ "") (more : Items v rest) :
      Items v ((.text, value) :: rest)
  | tag {inner rest : List (TokenKind × String)} (inside : Inside v true inner) (more : Items v rest) :
      Items v ((.tagStart, "") :: inner ++ (.tagEnd, "") :: rest)
  | expression {inner rest : List (TokenKind × String)} (inside : Inside v false inner) (more : Items v rest) :
      Items v ((.expressionStart, "") :: inner ++ (.expressionEnd, "") :: rest)

section

variable {rest : List (TokenKind × String)}

theorem Items.behind_text (items : Items v rest) (kept : List Char) : Items v (textFaces kept ++ rest) := by
  cases kept with
  | nil => exact items
  | cons c kept => exact .text (by simp) items

theorem Items.behind_section (items : Items v rest) {s : Section} {behind : List Char} (ends : s.Ends v behind) :
    Items v (s.tokens ++ rest) := by
  unfold Section.Ends at ends
  split at ends
  · rw [ends.1]
    exact items
  · obtain ⟨inner, tokens, reached, -⟩ := ends
    rw [tokens, List.append_assoc]
    exact .tag reached.inside items
  · obtain ⟨inner, tokens, reached, -⟩ := ends
    rw [tokens, List.append_assoc]
    exact .expression reached.inside items

theorem Splits.items {source last : List Char} {pieces : List (List Char × Section)} (splits : Splits v source pieces last)
    (trims : Bool) : Items v (pieceFaces trims pieces last) := by
  induction splits generalizing trims with
  | last => exact Items.eof.behind_text _
  | region _ _ ends _ ih =>
      rw [pieceFaces, List.append_assoc]
      exact ((ih _).behind_section ends).behind_text _

end

/-- Lines of tokens that lie between two lines and never go back. -/
def Climbs (low high : Nat) : List Token → Prop
  | [] => low ≤ high
  | token :: tokens => low ≤ token.line ∧ Climbs token.line high tokens

namespace Climbs

variable {low middle high : Nat} {tokens later : List Token}

theorem of_le (climbs : Climbs middle high tokens) (le : low ≤ middle) : Climbs low high tokens := by
  cases tokens with
  | nil => exact le.trans climbs
  | cons token tokens => exact ⟨le.trans climbs.1, climbs.2⟩

theorem append (before : Climbs low middle tokens) (behind : Climbs middle high later) :
    Climbs low high (tokens ++ later) := by
  induction tokens generalizing low with
  | nil => exact behind.of_le before
  | cons token tokens ih => exact ⟨before.1, ih before.2⟩

end Climbs

theorem line_of_readToken (read : readToken v startsTag line first more = .ok lexeme) : lexeme.token.line = line := by
  simp only [readToken] at read
  split at read
  · split at read <;> cases read
    rfl
  split at read
  · cases read
    rfl
  split at read
  · cases read
    rfl
  split at read
  · cases read
    rfl
  · split at read <;> cases read
    rfl

/-- With one line feed more than the bound allows for, a word of 32 bits starts again from nothing. -/
example : wordBehind 1 (UInt32.size - 2) = UInt32.size - 1 ∧ wordBehind 1 (UInt32.size - 1) = 0 := by
  decide

end Templating.Source
