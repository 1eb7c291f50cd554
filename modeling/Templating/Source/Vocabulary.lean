import Templating.Source.Delimiters

/-! # Vocabularies

What a tokenizer has to know beside the source: the delimiters, the operator symbols and words, and the
keywords of tags. Symbols are kept from long to short, so that the first one that fits is the longest.
-/

namespace Templating

/-- What a tokenizer has to know. -/
structure Vocabulary where
  /-- The delimiters. -/
  delimiters : Delimiters := {}
  /-- The operator symbols, longest first, without repetition. -/
  symbols : List String := []
  /-- The words that are part of operators. -/
  words : List String := []
  /-- The words that can start a tag. -/
  keywords : List String := []
deriving Repr, DecidableEq, BEq

/-- Whether one symbol is matched before another: the longer in bytes, then the smaller. -/
def symbolBefore (a b : String) : Bool :=
  if a.utf8ByteSize = b.utf8ByteSize then decide (a ≤ b) else decide (b.utf8ByteSize < a.utf8ByteSize)

/-- A list without repetition of neighbours. -/
def dropRepeated : List String → List String
  | [] => []
  | [a] => [a]
  | a :: b :: rest => if a = b then dropRepeated (b :: rest) else a :: dropRepeated (b :: rest)

theorem mem_dropRepeated {name : String} (names : List String) : name ∈ dropRepeated names ↔ name ∈ names := by
  fun_induction dropRepeated names with
  | case1 => exact Iff.rfl
  | case2 => exact Iff.rfl
  | case3 b rest ih =>
      rw [ih]
      exact ⟨List.mem_cons_of_mem b, fun member => (List.mem_cons.mp member).elim (fun same => same ▸ List.mem_cons_self) id⟩
  | case4 a b rest _ ih => rw [List.mem_cons, List.mem_cons, ih]

theorem pairwise_dropRepeated {r : String → String → Prop} (antisymm : ∀ a b, r a b → r b a → a = b)
    {names : List String} (sorted : names.Pairwise r) : (dropRepeated names).Pairwise fun a b => r a b ∧ a ≠ b := by
  fun_induction dropRepeated names with
  | case1 => exact .nil
  | case2 a => exact List.pairwise_singleton _ a
  | case3 b rest ih => exact ih (List.pairwise_cons.mp sorted).2
  | case4 a b rest differ ih =>
      obtain ⟨first, others⟩ := List.pairwise_cons.mp sorted
      refine List.pairwise_cons.mpr ⟨fun name member => ?_, ih others⟩
      rw [mem_dropRepeated] at member
      refine ⟨first name member, ?_⟩
      rintro rfl
      obtain rfl | later := List.mem_cons.mp member
      · exact differ rfl
      · exact differ (antisymm a b (first b List.mem_cons_self) ((List.pairwise_cons.mp others).1 a later))

namespace Vocabulary

/-- Adds operator symbols. -/
def addSymbols (v : Vocabulary) (symbols : List String) : Vocabulary :=
  { v with symbols := dropRepeated ((v.symbols ++ symbols).mergeSort symbolBefore) }

/-- Adds words of operators. -/
def addWords (v : Vocabulary) (words : List String) : Vocabulary :=
  { v with words := v.words ++ words }

/-- Adds words that can start a tag. -/
def addKeywords (v : Vocabulary) (keywords : List String) : Vocabulary :=
  { v with keywords := v.keywords ++ keywords }

/-- Whether a word is part of an operator. -/
def isOperatorWord (v : Vocabulary) (word : String) : Bool :=
  v.words.contains word

/-- Whether a word can start a tag. -/
def isKeyword (v : Vocabulary) (word : String) : Bool :=
  v.keywords.contains word

end Vocabulary

end Templating
