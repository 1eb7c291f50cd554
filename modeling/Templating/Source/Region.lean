import Templating.Source.Vocabulary
import Templating.Token.Basic
import Templating.Diagnostic.Basic
import Templating.Text.Blank
import Templating.Text.Letter

/-! # Inside a region

The tokens of a tag or an expression: texts in quotes, numbers, words, operator symbols and punctuation,
up to the closer of the region. Every token takes at least one character, so a region always ends.
-/

namespace Templating.Source

/-- A stretch of the source between two delimiters. -/
inductive Region where
  /-- A tag. -/
  | tag
  /-- An expression. -/
  | expression
  /-- A comment. -/
  | comment
deriving Repr, DecidableEq, BEq

/-- A region in the words of messages. -/
def Region.describe : Region → String
  | tag => "tag"
  | expression => "expression"
  | comment => "comment"

/-- Why a source cannot be split into tokens. -/
inductive LexCause where
  /-- A region is not closed. -/
  | unterminatedRegion (region : Region)
  /-- A text in quotes is not closed. -/
  | unterminatedString
  /-- A character starts no token. -/
  | invalidCharacter (c : Char)
deriving Repr, DecidableEq, BEq

/-- A failure to split a source into tokens. -/
structure LexError where
  /-- What is wrong. -/
  cause : LexCause
  /-- The line where it is wrong. -/
  line : Nat
  /-- The first characters of the source from there. -/
  fragment : String
deriving Repr, DecidableEq, BEq

namespace LexError

/-- A failure at a place of the source. -/
def atPlace (cause : LexCause) (line : Nat) (text : List Char) : LexError :=
  ⟨cause, line, String.ofList (text.take 24)⟩

/-- The code of a failure. -/
def code (e : LexError) : DiagnosticCode :=
  match e.cause with
  | .unterminatedRegion _ => .unterminatedDelimiter
  | .unterminatedString => .unterminatedString
  | .invalidCharacter _ => .invalidCharacter

/-- The message of a failure. -/
def message (e : LexError) : String :=
  let place := " on line " ++ toString e.line ++ " near `" ++ e.fragment ++ "`"
  match e.cause with
  | .unterminatedRegion region => "unterminated " ++ region.describe ++ " opened" ++ place
  | .unterminatedString => "unterminated string" ++ place
  | .invalidCharacter c => "invalid character `" ++ String.singleton c ++ "`" ++ place

/-- The remark on the line of a failure. -/
def label (e : LexError) : String :=
  match e.cause with
  | .unterminatedRegion region => region.describe ++ " opened here is never closed"
  | .unterminatedString => "string starts here"
  | .invalidCharacter c => "`" ++ String.singleton c ++ "` is not valid here"

/-- The diagnostic of a failure. -/
def toDiagnostic (e : LexError) : Diagnostic where
  code := e.code
  message := e.message
  labels := [⟨e.line, e.label, true⟩]

end LexError

/-- How many line feeds a text holds. -/
def countLines (text : List Char) : Nat :=
  text.count '\n'

/-- The line behind a text, from the line it starts on and the line feeds it holds. Of one text no more line
feeds are counted than a word of 32 bits can say. -/
def lineBehind (line count : Nat) : Nat :=
  line + min count (UInt32.size - 1)

/-- The line behind a text as a word of 32 bits, which wraps around. -/
def wordBehind (line count : Nat) : Nat :=
  lineBehind line count % UInt32.size

/-- What is left of `text` behind `piece`, if it starts with it. -/
def behind? (piece : String) (text : List Char) : Option (List Char) :=
  piece.toList.isPrefixOf? text

/-- The character that an escape in quotes stands for, as far as it is known. -/
def escaped (c : Char) : List Char :=
  if c = 'n' then ['\n']
  else if c = 't' then ['\t']
  else if c = 'r' then ['\r']
  else if c = '\\' ∨ c = '"' ∨ c = '\'' then [c]
  else ['\\', c]

/-- Reads the text behind an opening quote: the text, the line feeds in it and what is left behind the
closing quote. -/
def readQuoted (quote : Char) : List Char → Option (List Char × Nat × List Char)
  | [] => none
  | ['\\'] => none
  | '\\' :: c :: rest =>
    (readQuoted quote rest).map fun (value, lines, rest) =>
      (escaped c ++ value, countLines [c] + lines, rest)
  | c :: rest =>
    if c = quote then some ([], 0, rest)
    else
      (readQuoted quote rest).map fun (value, lines, rest) => (c :: value, countLines [c] + lines, rest)

/-- Reads digits, and a fraction if a digit follows the point. -/
def readNumber (text : List Char) : List Char × List Char :=
  let whole := text.takeWhile Char.isDigit
  let rest := text.dropWhile Char.isDigit
  match rest with
  | '.' :: d :: later =>
    if d.isDigit then
      (whole ++ '.' :: (d :: later).takeWhile Char.isDigit, (d :: later).dropWhile Char.isDigit)
    else (whole, rest)
  | _ => (whole, rest)

/-- Whether a character starts a word. -/
def startsWord (c : Char) : Bool :=
  Text.isLetter c || c == '_'

/-- Whether a character continues a word. -/
def continuesWord (c : Char) : Bool :=
  Text.isLetterOrNumber c || c == '_'

/-- The words that are values. -/
def literalWords : List String :=
  ["true", "false", "null"]

/-- The characters that are tokens of their own. -/
def punctuation : List Char :=
  ['(', ')', '[', ']', ',', ':', '.', '=']

/-- What a word is; a keyword is one only right behind the opener of a tag. -/
def wordKind (v : Vocabulary) (startsTag : Bool) (word : String) : TokenKind :=
  if startsTag && v.isKeyword word then .keyword
  else if literalWords.contains word then .literal
  else if v.isOperatorWord word then .operator
  else .identifier

/-- The longest operator symbol at the start of a text. -/
def symbolAt? (v : Vocabulary) (text : List Char) : Option String :=
  v.symbols.find? fun symbol => !symbol.isEmpty && symbol.toList.isPrefixOf text

/-- A token with the line feeds inside it and the text behind it. -/
structure Lexeme where
  /-- The token. -/
  token : Token
  /-- The line feeds inside it. -/
  lines : Nat := 0
  /-- The text behind it. -/
  rest : List Char
deriving Repr

/-- Reads the token at the start of a text. -/
def readToken (v : Vocabulary) (startsTag : Bool) (line : Nat) (first : Char) (more : List Char) :
    Except LexError Lexeme :=
  let text := first :: more
  if first = '"' ∨ first = '\'' then
    match readQuoted first more with
    | some (value, lines, rest) => .ok ⟨⟨.string, String.ofList value, line⟩, lines, rest⟩
    | none => .error (.atPlace .unterminatedString line text)
  else if first.isDigit then
    let (digits, rest) := readNumber text
    .ok ⟨⟨.literal, String.ofList digits, line⟩, 0, rest⟩
  else if startsWord first then
    let word := String.ofList (first :: more.takeWhile continuesWord)
    .ok ⟨⟨wordKind v startsTag word, word, line⟩, 0, more.dropWhile continuesWord⟩
  else
    match symbolAt? v text with
    | some symbol => .ok ⟨⟨.operator, symbol, line⟩, 0, text.drop symbol.length⟩
    | none =>
      if punctuation.contains first then .ok ⟨⟨.punctuation, String.singleton first, line⟩, 0, more⟩
      else .error (.atPlace (.invalidCharacter first) line text)

theorem length_readQuoted {quote : Char} {text value : List Char} {lines : Nat} {rest : List Char}
    (found : readQuoted quote text = some (value, lines, rest)) : rest.length < text.length := by
  fun_induction readQuoted quote text generalizing value lines rest with
  | case1 => simp at found
  | case2 => simp at found
  | case3 c tail ih =>
    simp only [Option.map_eq_some_iff] at found
    obtain ⟨⟨v, l, r⟩, inner, same⟩ := found
    have shorter := ih inner
    simp only [Prod.mk.injEq] at same
    obtain ⟨_, _, rfl⟩ := same
    simp only [List.length_cons]
    omega
  | case4 tail =>
    simp only [Option.some.injEq, Prod.mk.injEq] at found
    obtain ⟨_, _, rfl⟩ := found
    simp
  | case5 c tail _ _ _ ih =>
    simp only [Option.map_eq_some_iff] at found
    obtain ⟨⟨v, l, r⟩, inner, same⟩ := found
    have shorter := ih inner
    simp only [Prod.mk.injEq] at same
    obtain ⟨_, _, rfl⟩ := same
    simp only [List.length_cons]
    omega

theorem length_dropWhile_le {α : Type} (p : α → Bool) (text : List α) :
    (text.dropWhile p).length ≤ text.length :=
  (List.dropWhile_sublist p).length_le

theorem length_readNumber {first : Char} {more : List Char} (digit : first.isDigit = true) :
    (readNumber (first :: more)).2.length < (first :: more).length := by
  have shorter := length_dropWhile_le Char.isDigit more
  have step : (first :: more).dropWhile Char.isDigit = more.dropWhile Char.isDigit := by
    simp [List.dropWhile, digit]
  simp only [readNumber, step]
  split
  · rename_i d later same
    have size := congrArg List.length same
    have tail := length_dropWhile_le Char.isDigit (d :: later)
    split <;> simp only [List.length_cons] at * <;> omega
  · simp only [List.length_cons]
    omega

theorem length_readToken {v : Vocabulary} {startsTag : Bool} {line : Nat} {first : Char}
    {more : List Char} {lexeme : Lexeme} (read : readToken v startsTag line first more = .ok lexeme) :
    lexeme.rest.length < (first :: more).length := by
  simp only [readToken] at read
  split at read
  · split at read
    · rename_i found
      have shorter := length_readQuoted found
      simp only [Except.ok.injEq] at read
      subst read
      simp only [List.length_cons]
      omega
    · cases read
  · split at read
    · rename_i digit
      have shorter : (readNumber (first :: more)).2.length < (first :: more).length := length_readNumber digit
      simp only [Except.ok.injEq] at read
      subst read
      exact shorter
    · split at read
      · have shorter := length_dropWhile_le continuesWord more
        simp only [Except.ok.injEq] at read
        subst read
        simp only [List.length_cons]
        omega
      · split at read
        · rename_i symbol found
          have nonempty := List.find?_some found
          simp only [Bool.and_eq_true, Bool.not_eq_true'] at nonempty
          have positive : 0 < symbol.length := by
            rcases Nat.eq_zero_or_pos symbol.length with zero | positive
            · have : symbol = "" := String.length_eq_zero_iff.mp zero
              subst this
              simp at nonempty
            · exact positive
          simp only [Except.ok.injEq] at read
          subst read
          simp only [List.length_drop, List.length_cons]
          omega
        · split at read
          · simp only [Except.ok.injEq] at read
            subst read
            simp
          · cases read

/-- What is left behind the closer of a region, and whether the blanks behind it are removed. -/
def closed? (d : Delimiters) (close : String) (text : List Char) : Option (Bool × List Char) :=
  let trimmed :=
    match text with
    | c :: rest => if c = d.trim then behind? close rest else none
    | [] => none
  match trimmed with
  | some rest => some (true, rest)
  | none => (behind? close text).map fun rest => (false, rest)

/-- The tokens of a region with what is known behind it. -/
structure RegionEnd where
  /-- The tokens of the region, without its opener. -/
  tokens : List Token
  /-- The line behind the region. -/
  line : Nat
  /-- Whether the blanks behind it are removed. -/
  trims : Bool
  /-- The text behind it. -/
  rest : List Char
deriving Repr

/-- Reads the tokens of a region up to its closer, which becomes the token `closer`. `unterminated` is the
failure of a region without an end, and `sum` says how lines are counted. -/
def readRegion (sum : Nat → Nat → Nat) (v : Vocabulary) (close : String) (closer : TokenKind) (unterminated : LexError)
    (startsTag : Bool) (line : Nat) (text : List Char) : Except LexError RegionEnd :=
  let here := Text.trimStart text
  let line := sum line (countLines (text.takeWhile Text.isBlank))
  match _shape : here with
  | [] => .error unterminated
  | first :: more =>
    match closed? v.delimiters close here with
    | some (trims, rest) => .ok ⟨[⟨closer, "", line⟩], line, trims, rest⟩
    | none =>
      match _read : readToken v startsTag line first more with
      | .error e => .error e
      | .ok lexeme => do
        let done ← readRegion sum v close closer unterminated false (sum line lexeme.lines) lexeme.rest
        return { done with tokens := lexeme.token :: done.tokens }
termination_by text.length
decreasing_by
  have shorter := length_readToken _read
  have trimmed : here.length ≤ text.length := length_dropWhile_le Text.isBlank text
  have size := congrArg List.length _shape
  omega

end Templating.Source
