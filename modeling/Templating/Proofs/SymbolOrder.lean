import Templating.Proofs.TokenizerTurns

/-! # The order of operator symbols

A vocabulary takes operator symbols in batches. It sorts them again after each batch, the longer in bytes first, and drops a
symbol that stands beside an equal one. Of the symbols that stand at one place of a source each is the start of the next
longer one, so the first symbol that fits is the longest. The order is total, so equal symbols come to stand beside each
other, and the symbols depend on nothing but which ones were added.
-/

namespace Templating

namespace Vocabulary

variable {v : Vocabulary} {symbol : String} {batches others : List (List String)}

/-- Adds batches of symbols one after another. -/
def addBatches (v : Vocabulary) (batches : List (List String)) : Vocabulary :=
  batches.foldl addSymbols v

theorem symbolBefore_antisymm (a b : String) (first : symbolBefore a b = true) (second : symbolBefore b a = true) : a = b := by
  rw [symbolBefore_iff] at first second
  rcases first with longer | ⟨same, smaller⟩
  · omega
  · rcases second with longer | ⟨-, larger⟩
    · omega
    · exact String.le_antisymm smaller larger

/-- A symbol is matched before another one. -/
def Precedes (a b : String) : Prop :=
  symbolBefore a b = true ∧ a ≠ b

instance : Std.Irrefl Precedes where
  irrefl _ precedes := precedes.2 rfl

instance : Std.Antisymm Precedes where
  antisymm a b first second := symbolBefore_antisymm a b first.1 second.1

theorem mem_addSymbols {added : List String} : symbol ∈ (v.addSymbols added).symbols ↔ symbol ∈ v.symbols ∨ symbol ∈ added := by
  simp [addSymbols, mem_dropRepeated]

theorem ordered_addSymbols (v : Vocabulary) (added : List String) : (v.addSymbols added).symbols.Pairwise Precedes := by
  apply pairwise_dropRepeated symbolBefore_antisymm
  exact List.pairwise_mergeSort symbolBefore_trans symbolBefore_total _

theorem mem_addBatches : symbol ∈ (v.addBatches batches).symbols ↔ symbol ∈ v.symbols ∨ symbol ∈ batches.flatten := by
  induction batches generalizing v with
  | nil => simp [addBatches]
  | cons added batches ih =>
      have step : v.addBatches (added :: batches) = (v.addSymbols added).addBatches batches := rfl
      simp only [step, ih, mem_addSymbols, List.flatten_cons, List.mem_append, or_assoc]

theorem ordered_addBatches (ordered : v.symbols.Pairwise Precedes) : (v.addBatches batches).symbols.Pairwise Precedes := by
  induction batches generalizing v with
  | nil => exact ordered
  | cons added batches ih => exact ih (ordered_addSymbols v added)

theorem addBatches_eq (v : Vocabulary) (batches : List (List String)) :
    v.addBatches batches = { v with symbols := (v.addBatches batches).symbols } := by
  induction batches generalizing v with
  | nil => rfl
  | cons added batches ih => exact ih (v.addSymbols added)

/-- Neither the order of symbols nor how they are put in batches makes a difference. -/
theorem addBatches_congr (ordered : v.symbols.Pairwise Precedes)
    (same : ∀ symbol, symbol ∈ others.flatten ↔ symbol ∈ batches.flatten) : v.addBatches others = v.addBatches batches := by
  have symbols : (v.addBatches others).symbols = (v.addBatches batches).symbols := by
    apply (ordered_addBatches ordered).eq_of_mem_iff (ordered_addBatches ordered)
    intro symbol
    rw [mem_addBatches, mem_addBatches, same]
  rw [addBatches_eq v others, addBatches_eq v batches, symbols]

end Vocabulary

namespace Source

open Vocabulary (Precedes)

variable {v : Vocabulary} {symbols : List String} {text rest : List Char} {symbol other : String}

/-- The longest of some symbols that stand at the start of a text, with what is left behind it. -/
structure LongestAt (symbols : List String) (text : List Char) (symbol : String) (rest : List Char) : Prop where
  member : symbol ∈ symbols
  stands : text = symbol.toList ++ rest
  longest : ∀ other ∈ symbols, other.toList <+: text → other.length ≤ symbol.length

namespace LongestAt

theorem isPrefix (longest : LongestAt symbols text symbol rest) : symbol.toList <+: text :=
  ⟨rest, longest.stands.symm⟩

theorem congr {registered : List String} (same : ∀ symbol, symbol ∈ symbols ↔ symbol ∈ registered) :
    LongestAt symbols text symbol rest ↔ LongestAt registered text symbol rest := by
  constructor
  · intro longest
    exact ⟨(same symbol).mp longest.member, longest.stands, fun other member => longest.longest other ((same other).mpr member)⟩
  · intro longest
    exact ⟨(same symbol).mpr longest.member, longest.stands, fun other member => longest.longest other ((same other).mp member)⟩

theorem unique {behind : List Char} (one : LongestAt symbols text symbol rest) (two : LongestAt symbols text other behind) :
    symbol = other := by
  have length : symbol.toList.length = other.toList.length := by
    rw [String.length_toList, String.length_toList]
    exact Nat.le_antisymm (two.longest symbol one.member one.isPrefix) (one.longest other two.member two.isPrefix)
  apply String.toList_inj.mp
  exact (List.prefix_of_prefix_length_le one.isPrefix two.isPrefix length.le).eq_of_length length

end LongestAt

theorem longestAt_of_firstSymbol? (ordered : v.symbols.Pairwise Precedes) (found : firstSymbol? v text = some symbol) :
    LongestAt v.symbols text symbol (text.drop symbol.length) := by
  obtain ⟨fits, earlier, later, split, missed⟩ := List.find?_eq_some_iff_append.mp found
  have stands : symbol.toList <+: text := List.isPrefixOf_iff_prefix.mp fits
  constructor
  · simp [split]
  · obtain ⟨rest, rfl⟩ := stands
    rw [← String.length_toList, List.drop_left]
  · intro other member here
    simp only [split, List.mem_append, List.mem_cons] at member
    rcases member with before | rfl | behind
    · have elsewhere := missed other before
      simp [List.isPrefixOf_iff_prefix.mpr here] at elsewhere
    · exact Nat.le_refl _
    -- What stands behind the symbol has no more bytes, and of two symbols at one place it is then the shorter.
    · simp only [split, List.pairwise_append, List.pairwise_cons] at ordered
      have precedes := ordered.2.1.1 other behind
      apply length_le_of_utf8ByteSize_le here stands
      rcases Vocabulary.symbolBefore_iff.mp precedes.1 with fewer | ⟨same, -⟩
      · exact fewer.le
      · exact same.ge

theorem exists_firstSymbol? (member : symbol ∈ v.symbols) (here : symbol.toList <+: text) :
    ∃ found, firstSymbol? v text = some found := by
  apply Option.isSome_iff_exists.mp
  exact List.find?_isSome.mpr ⟨symbol, member, List.isPrefixOf_iff_prefix.mpr here⟩

theorem firstSymbol?_eq_some_iff (ordered : v.symbols.Pairwise Precedes) :
    firstSymbol? v text = some symbol ∧ rest = text.drop symbol.length ↔ LongestAt v.symbols text symbol rest := by
  constructor
  · rintro ⟨found, rfl⟩
    exact longestAt_of_firstSymbol? ordered found
  · intro longest
    obtain ⟨found, first⟩ := exists_firstSymbol? longest.member longest.isPrefix
    have same := (longestAt_of_firstSymbol? ordered first).unique longest
    subst same
    refine ⟨first, ?_⟩
    rw [longest.stands, ← String.length_toList, List.drop_left]

/-- A place behind blanks in a region where the region does not end and neither a text in quotes nor a number nor a word
starts. -/
structure SymbolPlace (d : Delimiters) (close : String) (unread : List Char) (first : Char) (more : List Char) : Prop where
  here : Text.trimStart unread = first :: more
  goesOn : ¬ ClosesAt d close (first :: more)
  noQuote : first ≠ '"' ∧ first ≠ '\''
  noNumber : first.isDigit = false
  noWord : startsWord first = false

section

variable {close : String} {closer : TokenKind} {unterminated : LexError} {s : RegionState} {unread more : List Char}
  {first : Char} {line : Nat}

/-- At the place of a symbol, an operator is read if and only if the longest symbol is. -/
theorem nextToken_eq_operator_iff (ordered : v.symbols.Pairwise Precedes)
    (place : SymbolPlace v.delimiters close unread first more) (startsTag : Bool) (line : Nat) :
    nextToken v startsTag line first more = .ok ⟨⟨.operator, symbol, line⟩, 0, rest⟩ ↔
      LongestAt v.symbols (first :: more) symbol rest := by
  rw [← firstSymbol?_eq_some_iff ordered]
  simp only [nextToken, place.noQuote, place.noNumber, place.noWord, or_self, Bool.false_eq_true, if_false]
  cases firstSymbol? v (first :: more) with
  | none =>
      dsimp only
      split <;> simp
  | some found =>
      simp only [Except.ok.injEq, Lexeme.mk.injEq, Token.mk.injEq, Option.some.injEq, true_and, and_true]
      constructor
      · rintro ⟨rfl, rfl⟩
        exact ⟨rfl, rfl⟩
      · rintro ⟨rfl, rfl⟩
        exact ⟨rfl, rfl⟩

theorem wordBehind_lt (line count : Nat) : wordBehind line count < UInt32.size :=
  Nat.mod_lt _ (by decide)

theorem wordBehind_eq_self_iff {line count : Nat} (isWord : line < UInt32.size) : wordBehind line count = line ↔ count = 0 := by
  have more : 1 < UInt32.size := by decide
  rw [wordBehind, lineBehind]
  by_cases within : line + min count (UInt32.size - 1) < UInt32.size
  · rw [Nat.mod_eq_of_lt within]
    omega
  · rw [Nat.mod_eq_sub_mod (Nat.le_of_not_lt within), Nat.mod_eq_of_lt (by omega)]
    omega

theorem regionTurn_eq_operator_iff (ordered : v.symbols.Pairwise Precedes)
    (place : SymbolPlace v.delimiters close s.unread first more)
    (lines : line = wordBehind s.line (countLines (s.unread.takeWhile Text.isBlank))) :
    regionTurn v close closer unterminated s = .again ⟨s.tokens ++ [⟨.operator, symbol, line⟩], false, line, rest⟩ ↔
      LongestAt v.symbols (first :: more) symbol rest := by
  subst lines
  rw [← nextToken_eq_operator_iff ordered place s.startsTag]
  simp only [regionTurn, place.here, closed?_eq_none_iff.mpr place.goesOn]
  cases nextToken v s.startsTag (wordBehind s.line (countLines (s.unread.takeWhile Text.isBlank))) first more with
  | error e => simp
  | ok lexeme =>
      obtain ⟨token, lines, left⟩ := lexeme
      simp only [Turn.again.injEq, RegionState.mk.injEq, List.append_cancel_left_eq, List.cons.injEq, and_true, true_and,
        wordBehind_eq_self_iff (wordBehind_lt _ _), Except.ok.injEq, Lexeme.mk.injEq]

end

/-- However operator symbols are put in batches and in whatever order, the vocabulary holds each of them once. At a place of
a region where the region does not end and its character starts no text in quotes, number or word, the tokenizer reads an
operator if some symbol stands there, and it is the longest one. Two vocabularies that got the same symbols tokenize every
source alike. -/
theorem symbols_read_longest {v : Vocabulary} {batches : List (List String)} (fresh : v.symbols = [])
    (inhabited : ∀ batch ∈ batches, ∀ symbol ∈ batch, symbol ≠ "") :
    (v.addBatches batches).symbols.Nodup ∧
      (∀ symbol, symbol ∈ (v.addBatches batches).symbols ↔ ∃ batch ∈ batches, symbol ∈ batch) ∧
      (∀ close closer unterminated s first more, SymbolPlace v.delimiters close s.unread first more →
        ((∃ batch ∈ batches, ∃ symbol ∈ batch, symbol.toList <+: first :: more) →
          ∃ symbol rest, LongestAt batches.flatten (first :: more) symbol rest) ∧
        ∀ symbol rest line, line = wordBehind s.line (countLines (s.unread.takeWhile Text.isBlank)) →
          (LongestAt batches.flatten (first :: more) symbol rest ↔
            regionTurn (v.addBatches batches) close closer unterminated s =
              .again ⟨s.tokens ++ [⟨.operator, symbol, line⟩], false, line, rest⟩) ∧
          (LongestAt batches.flatten (first :: more) symbol rest ↔
            readToken (v.addBatches batches) s.startsTag line first more = .ok ⟨⟨.operator, symbol, line⟩, 0, rest⟩)) ∧
      ∀ others : List (List String), (∀ symbol, (∃ batch ∈ others, symbol ∈ batch) ↔ ∃ batch ∈ batches, symbol ∈ batch) →
        ∀ source, tokenize (v.addBatches others) source = tokenize (v.addBatches batches) source := by
  have start : v.symbols.Pairwise Precedes := by
    rw [fresh]
    exact .nil
  have ordered : (v.addBatches batches).symbols.Pairwise Precedes := Vocabulary.ordered_addBatches start
  have held (symbol : String) : symbol ∈ (v.addBatches batches).symbols ↔ symbol ∈ batches.flatten := by
    simp [Vocabulary.mem_addBatches, fresh]
  have delimiters : (v.addBatches batches).delimiters = v.delimiters := by
    rw [Vocabulary.addBatches_eq]
  refine ⟨ordered.nodup, ?_, ?_, ?_⟩
  · intro symbol
    rw [held, List.mem_flatten]
  · intro close closer unterminated s first more place
    rw [← delimiters] at place
    constructor
    · rintro ⟨batch, among, symbol, member, here⟩
      obtain ⟨found, first⟩ := exists_firstSymbol? ((held symbol).mpr (List.mem_flatten.mpr ⟨batch, among, member⟩)) here
      exact ⟨found, _, (LongestAt.congr held).mp (longestAt_of_firstSymbol? ordered first)⟩
    · intro symbol rest line lines
      rw [← LongestAt.congr held, regionTurn_eq_operator_iff ordered place lines, ← nextToken_eq ?_,
        nextToken_eq_operator_iff ordered place]
      · exact ⟨Iff.rfl, Iff.rfl⟩
      · intro symbol member
        obtain ⟨batch, among, inside⟩ := List.mem_flatten.mp ((held symbol).mp member)
        exact inhabited batch among symbol inside
  · intro others same source
    rw [Vocabulary.addBatches_congr start]
    simpa only [List.mem_flatten] using same

/-- A vocabulary before symbols are added. -/
def wordsOnly : Vocabulary where
  words := ["is"]

/-- Symbols that are the start of one another, one of them added twice, and the same ones in another order. -/
def arrowBatches : List (List String) := [["-", "=", "→"], ["=>", "→→"], ["→", "==>"]]

def arrowsAtOnce : List (List String) := [["→→", "==>", "=", "→", "=>", "-"]]

/-- A place in an expression where two of the arrows stand, with a shorter symbol behind them. -/
def arrowState : RegionState where
  startsTag := false
  line := 3
  unread := "\n →→=> x \x7d\x7d".toList

theorem arrowBatches_read_longest :
    wordsOnly.symbols = [] ∧ (∀ batch ∈ arrowBatches, ∀ symbol ∈ batch, symbol ≠ "") ∧
      SymbolPlace wordsOnly.delimiters "\x7d\x7d" arrowState.unread '→' "→=> x \x7d\x7d".toList ∧
      (∀ closer unterminated,
        regionTurn (wordsOnly.addBatches arrowBatches) "\x7d\x7d" closer unterminated arrowState =
          .again ⟨[⟨.operator, "→→", 4⟩], false, 4, "=> x \x7d\x7d".toList⟩) ∧
      ∀ source, tokenize (wordsOnly.addBatches arrowsAtOnce) source =
        tokenize (wordsOnly.addBatches arrowBatches) source := by
  have inhabited : ∀ batch ∈ arrowBatches, ∀ symbol ∈ batch, symbol ≠ "" := by decide
  have place : SymbolPlace wordsOnly.delimiters "\x7d\x7d" arrowState.unread '→' "→=> x \x7d\x7d".toList := by
    constructor <;> decide +kernel
  have longest : LongestAt arrowBatches.flatten "→→=> x \x7d\x7d".toList "→→" "=> x \x7d\x7d".toList := by
    constructor <;> decide +kernel
  obtain ⟨-, -, read, alike⟩ := symbols_read_longest (v := wordsOnly) rfl inhabited
  refine ⟨rfl, inhabited, place, ?_, ?_⟩
  · intro closer unterminated
    obtain ⟨-, turn⟩ := read "\x7d\x7d" closer unterminated arrowState _ _ place
    exact (turn "→→" _ 4 (by decide +kernel)).1.mp longest
  · apply alike
    intro symbol
    simp only [arrowsAtOnce, arrowBatches, List.mem_cons, List.not_mem_nil, or_false, exists_eq_left, exists_eq_or_imp]
    tauto

end Source

end Templating
