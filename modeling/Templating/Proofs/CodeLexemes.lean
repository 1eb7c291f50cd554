import Mathlib.Tactic.SplitIfs
import Templating.Code.Printer

/-! # The words and marks of code

A text of code is read as words and single marks. What stands in a string literal is skipped, and so are blanks. Texts can
be read piece by piece where a piece ends in a mark or the next one begins with one.
-/

namespace Templating.Code

/-- A word of a text of code, or any other character outside its string literals. -/
inductive Lexeme where
  | word (text : List Char)
  | mark (c : Char)
deriving Repr, DecidableEq

def isWordChar (c : Char) : Bool :=
  c.isAlphanum || c == '_'

/-- How far a text was read: in a word that began, in a string literal, or behind a backslash there. -/
inductive Scan where
  | code (word : List Char)
  | quoted
  | escaped
deriving Repr, DecidableEq

def wordLexemes (word : List Char) : List Lexeme :=
  if word = [] then [] else [.word word]

namespace Scan

def step : Scan → Char → List Lexeme × Scan
  | .code word, c =>
    if isWordChar c then ([], .code (word ++ [c]))
    else if c = '"' then (wordLexemes word, .quoted)
    else (wordLexemes word ++ (if c.isWhitespace then [] else [.mark c]), .code [])
  | .quoted, c => ([], if c = '\\' then .escaped else if c = '"' then .code [] else .quoted)
  | .escaped, _ => ([], .quoted)

def run (scan : Scan) : List Char → List Lexeme × Scan
  | [] => ([], scan)
  | c :: rest =>
    let first := scan.step c
    let later := first.2.run rest
    (first.1 ++ later.1, later.2)

/-- What is left to be read off at the end. -/
def last : Scan → List Lexeme
  | .code word => wordLexemes word
  | _ => []

end Scan

/-- The words and marks of a text. -/
def lexemes (text : String) : List Lexeme :=
  let read := Scan.run (.code []) text.toList
  read.1 ++ read.2.last

example : lexemes "let _tmp0 = f(\"a; \\\" _tmp1\");" =
    [.word "let".toList, .word "_tmp0".toList, .mark '=', .word "f".toList, .mark '(', .mark ')', .mark ';'] := by
  decide

theorem Scan.run_append (scan : Scan) (first rest : List Char) :
    scan.run (first ++ rest) =
      ((scan.run first).1 ++ ((scan.run first).2.run rest).1, ((scan.run first).2.run rest).2) := by
  induction first generalizing scan with
  | nil => simp [run]
  | cons c first ih => simp [run, ih]

/-- The text is read to these lexemes, whatever follows it. -/
def Closed (text : String) (found : List Lexeme) : Prop :=
  Scan.run (.code []) text.toList = (found, .code [])

/-- The text is read to these lexemes, if no word goes on behind it. -/
def Lexes (text : String) (found : List Lexeme) : Prop :=
  ∃ front word, Scan.run (.code []) text.toList = (front, .code word) ∧ found = front ++ wordLexemes word

/-- The text does not begin inside a word. -/
def beginsApart (text : String) : Bool :=
  !text.toList.head?.any isWordChar

section

variable {first rest text : String} {found more : List Lexeme}

theorem lexemes_eq (closed : Closed text found) : lexemes text = found := by
  have read : Scan.run (.code []) text.toList = (found, .code []) := closed
  simp [lexemes, read, Scan.last, wordLexemes]

theorem Closed.lexes (closed : Closed text found) : Lexes text found :=
  ⟨found, [], closed, by simp [wordLexemes]⟩

theorem Closed.empty : Closed "" [] :=
  rfl

theorem Closed.append (one : Closed first found) (other : Closed rest more) : Closed (first ++ rest) (found ++ more) := by
  unfold Closed at *
  simp [Scan.run_append, one, other]

theorem Closed.append_lexes (one : Closed first found) (other : Lexes rest more) : Lexes (first ++ rest) (found ++ more) := by
  obtain ⟨front, word, read, rfl⟩ := other
  unfold Closed at one
  exact ⟨found ++ front, word, by simp [Scan.run_append, one, read], by simp⟩

theorem Scan.run_apart {text : List Char} (apart : text.head?.any isWordChar = false) (some_char : text ≠ []) (word : List Char) :
    (Scan.code word).run text = (wordLexemes word ++ ((Scan.code []).run text).1, ((Scan.code []).run text).2) := by
  cases text with
  | nil => exact absurd rfl some_char
  | cons c text =>
      have mark : isWordChar c = false := by simpa using apart
      by_cases quotes : c = '"'
      · subst quotes
        simp [run, step, mark, wordLexemes]
      · simp [run, step, mark, quotes, wordLexemes]

theorem Lexes.append_closed (one : Lexes first found) (other : Closed rest more) (apart : beginsApart rest = true)
    (some_char : rest ≠ "") : Closed (first ++ rest) (found ++ more) := by
  obtain ⟨front, word, read, rfl⟩ := one
  unfold Closed at *
  have onward := Scan.run_apart (by simpa [beginsApart] using apart) (by simpa using some_char) word
  simp [Scan.run_append, read, onward, other]

end

theorem Scan.run_word {word : List Char} (isWord : ∀ c ∈ word, isWordChar c = true) (begun : List Char) :
    (Scan.code begun).run word = ([], .code (begun ++ word)) := by
  induction word generalizing begun with
  | nil => simp [run]
  | cons c word ih =>
      obtain ⟨first, rest⟩ := List.forall_mem_cons.mp isWord
      simp [run, step, first, ih rest]

theorem lexes_word {text : String} (isWord : ∀ c ∈ text.toList, isWordChar c = true) (some_char : text ≠ "") :
    Lexes text [.word text.toList] :=
  ⟨[], text.toList, Scan.run_word isWord [], by simp [wordLexemes, some_char]⟩

/-- What a text is read to consists of characters of the text. -/
def Lexeme.Over (P : Char → Prop) : Lexeme → Prop
  | .word text => ∀ c ∈ text, P c
  | .mark c => P c

theorem Scan.run_over {P : Char → Prop} {text : List Char} (each : ∀ c ∈ text, P c ∧ c ≠ '"') (begun : List Char)
    (among : ∀ c ∈ begun, P c) :
    ∃ front word, (Scan.code begun).run text = (front, .code word) ∧ (∀ lexeme ∈ front, lexeme.Over P) ∧ ∀ c ∈ word, P c := by
  induction text generalizing begun with
  | nil => exact ⟨[], begun, rfl, nofun, among⟩
  | cons c text ih =>
      obtain ⟨⟨known, noQuote⟩, later⟩ := List.forall_mem_cons.mp each
      by_cases inWord : isWordChar c = true
      · obtain ⟨front, word, read, overFront, overWord⟩ :=
          ih later _ (List.forall_mem_append.mpr ⟨among, List.forall_mem_singleton.mpr known⟩)
        exact ⟨front, word, by simp [run, step, inWord, read], overFront, overWord⟩
      · obtain ⟨front, word, read, overFront, overWord⟩ := ih later [] nofun
        refine ⟨wordLexemes begun ++ (if c.isWhitespace then [] else [.mark c]) ++ front, word, ?_, ?_, overWord⟩
        · simp [run, step, inWord, noQuote, read]
        · refine List.forall_mem_append.mpr ⟨List.forall_mem_append.mpr ⟨?_, ?_⟩, overFront⟩
          · rw [wordLexemes]
            split
            · exact nofun
            · exact List.forall_mem_singleton.mpr among
          · split
            · exact nofun
            · exact List.forall_mem_singleton.mpr known

theorem lexes_over {P : Char → Prop} {text : String} (each : ∀ c ∈ text.toList, P c ∧ c ≠ '"') :
    ∃ found, Lexes text found ∧ ∀ lexeme ∈ found, lexeme.Over P := by
  obtain ⟨front, word, read, overFront, overWord⟩ := Scan.run_over each [] nofun
  refine ⟨_, ⟨front, word, read, rfl⟩, List.forall_mem_append.mpr ⟨overFront, ?_⟩⟩
  rw [wordLexemes]
  split
  · exact nofun
  · exact List.forall_mem_singleton.mpr overWord

theorem Scan.run_quoted {text : List Char} (each : ∀ c ∈ text, c ≠ '\\' ∧ c ≠ '"') : Scan.quoted.run text = ([], .quoted) := by
  induction text with
  | nil => rfl
  | cons c text ih =>
      obtain ⟨⟨noEscape, noQuote⟩, later⟩ := List.forall_mem_cons.mp each
      simp [run, step, noEscape, noQuote, ih later]

theorem mem_toDigits {base : Nat} (large : 1 < base) (n : Nat) : ∀ c ∈ Nat.toDigits base n, ∃ d < base, c = d.digitChar := by
  induction n using Nat.strongRecOn with
  | ind n ih =>
      intro c member
      rw [Nat.toDigits_eq_if large] at member
      split at member
      · exact ⟨n, by assumption, List.mem_singleton.mp member⟩
      · rcases List.mem_append.mp member with front | last
        · exact ih (n / base) (Nat.div_lt_self (by omega) large) c front
        · exact ⟨n % base, Nat.mod_lt _ (by omega), List.mem_singleton.mp last⟩

theorem hexadecimal_plain (code : Nat) : ∀ c ∈ (Text.hexadecimal code).toList, c ≠ '\\' ∧ c ≠ '"' := by
  intro c member
  rw [Text.hexadecimal, String.toList_ofList] at member
  obtain ⟨d, small, rfl⟩ := mem_toDigits (by decide) code c member
  have each : ∀ d < 16, d.digitChar ≠ '\\' ∧ d.digitChar ≠ '"' := by decide
  exact each d small

theorem Scan.run_quoteChar (c : Char) : Scan.quoted.run (Text.quoteChar c).toList = ([], .quoted) := by
  unfold Text.quoteChar
  split_ifs with null tab carriage newline backslash quotes printable
  · rfl
  · rfl
  · rfl
  · rfl
  · rfl
  · rfl
  · rw [String.toList_singleton]
    exact run_quoted (List.forall_mem_singleton.mpr ⟨backslash, quotes⟩)
  · rw [String.toList_append, String.toList_append, Scan.run_append, Scan.run_append]
    have digits := run_quoted (hexadecimal_plain c.toNat)
    have opening : Scan.quoted.run "\\u\x7b".toList = ([], .quoted) := rfl
    have closing : Scan.quoted.run "\x7d".toList = ([], .quoted) := rfl
    rw [opening, digits, closing]
    rfl

theorem closed_quote (text : String) : Closed (Text.quote text) [] := by
  have inside : Scan.quoted.run (String.join (text.toList.map Text.quoteChar)).toList = ([], .quoted) := by
    rw [String.toList_join]
    induction text.toList with
    | nil => rfl
    | cons c chars ih => simp [Scan.run_append, Scan.run_quoteChar, ih]
  have opening : Scan.run (.code []) "\"".toList = ([], .quoted) := rfl
  have closing : Scan.quoted.run "\"".toList = ([], .code []) := rfl
  rw [Closed, Text.quote, String.toList_append, String.toList_append, Scan.run_append, Scan.run_append, opening, inside, closing]
  rfl

/-- Steps of building text that add these lexemes. -/
def Closes (edits : List Edit) (found : List Lexeme) : Prop :=
  ∀ (buffer : Buffer) (front : List Lexeme), Closed buffer.text front → Closed (buffer.applyAll edits).text (front ++ found)

theorem closed_indentation (level : Nat) : Closed (Buffer.indentation level) [] := by
  rw [Buffer.indentation, String.pushn_eq_repeat_push]
  induction 4 * level with
  | zero => rfl
  | succ count ih =>
      rw [Nat.repeat, ← String.append_singleton]
      exact ih.append rfl

theorem closed_newline : Closed "\n" [] :=
  rfl

namespace Closes

variable {first rest : List Edit} {text : String} {found more : List Lexeme}

theorem nil : Closes [] [] := by
  intro buffer front closed
  rwa [List.append_nil]

theorem append (one : Closes first found) (other : Closes rest more) : Closes (first ++ rest) (found ++ more) := by
  intro buffer front closed
  rw [Buffer.applyAll, List.foldl_append, ← List.append_assoc]
  exact other _ _ (one buffer front closed)

theorem line (lexes : Lexes text found) : Closes [.line text] found := by
  intro buffer front closed
  have before := (closed.append (closed_indentation buffer.level)).append_lexes lexes
  have ended := before.append_closed closed_newline rfl (by decide)
  rwa [List.append_nil, List.append_nil] at ended

theorem raw (closed : Closed text found) : Closes [.raw text] found :=
  fun _ _ before => before.append closed

theorem blank : Closes [.blank] [] :=
  fun _ _ before => before.append closed_newline

theorem indent : Closes [.indent] [] := by
  intro buffer front before
  rwa [List.append_nil]

theorem outdent : Closes [.outdent] [] := by
  intro buffer front before
  rwa [List.append_nil]

end Closes

end Templating.Code
