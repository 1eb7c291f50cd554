import Templating.Proofs.CoreExtension
import Templating.Proofs.SymbolOrder

/-! # The vocabulary of the core extension

What the tokenizer has to know of the core extension is spelled out here, as its registries are. Splitting aliases into words
and sorting symbols takes long to evaluate, so a fixed source is compiled with the vocabulary that this leads to.
-/

namespace Templating

namespace Compiler

/-- The symbols of the core operators, in the order in which they are matched. -/
def coreSymbols : List String :=
  ["!==", "===", "!=", "&&", "**", "..", "<=", "==", ">=", "||", "!", "%", "*", "+", "-", "/", "<", ">", "?", "~"]

/-- The symbols of the core operators, in the order in which they are registered. -/
def registeredSymbols : List String :=
  ["?", "||", "&&", "!", "==", "!=", "<", "<=", ">", ">=", "!==", "===", "..", "~", "+", "-", "*", "/", "%", "-", "+", "**"]

/-- Sorting by merging does not compute, but a list in order is determined by what it holds. -/
theorem addSymbols_registered {v : Vocabulary} (fresh : v.symbols = []) :
    (v.addSymbols registeredSymbols).symbols = coreSymbols := by
  have ordered : coreSymbols.Pairwise fun a b => symbolBefore a b = true ∧ a ≠ b := by decide +kernel
  have known : ∀ symbol ∈ registeredSymbols, symbol ∈ coreSymbols := by decide +kernel
  have used : ∀ symbol ∈ coreSymbols, symbol ∈ registeredSymbols := by decide +kernel
  apply (Vocabulary.ordered_addSymbols v registeredSymbols).eq_of_mem_iff ordered
  intro symbol
  simpa [Vocabulary.mem_addSymbols, fresh] using ⟨known symbol, used symbol⟩

end Compiler

namespace Core

open Compiler (coreSymbols registeredSymbols addSymbols_registered)

/-- What the tokenizer has to know of the core extension. -/
def vocabulary : Vocabulary where
  symbols := coreSymbols
  words := ["or", "xor", "and", "not", "is", "not", "is", "not", "same", "as", "is", "is", "same", "as", "is", "not", "empty",
    "is", "empty", "is", "not", "set", "is", "set", "is", "not", "even", "is", "even", "is", "not", "odd", "is", "odd", "is",
    "not", "divisible", "by", "is", "divisible", "by", "is", "not", "like", "is", "like", "not", "in", "in"]
  keywords := ["print", "if", "for", "switch", "set", "include", "template", "elseif", "else", "endif", "endfor", "case",
    "default", "endswitch", "endtemplate"]

theorem vocabulary_registries : registries.vocabulary {} = vocabulary := by
  obtain ⟨symbols, words, keywords⟩ : registries.operators.symbols = registeredSymbols ∧
      registries.operators.words = vocabulary.words ∧ registries.tags.keywords = vocabulary.keywords := by
    decide +kernel
  have sorted := addSymbols_registered (v := { words := vocabulary.words, keywords := vocabulary.keywords }) rfl
  rw [Registries.vocabulary, symbols, words, keywords]
  exact congrArg (fun symbols => { vocabulary with symbols := symbols }) sorted

end Core

namespace Compiler

/-- The compiler with nothing but the core extension, not configured further. -/
def core (loader : Loader) : Compiler where
  config := {}
  registries := Core.registries
  vocabulary := Core.vocabulary
  loader := loader

theorem build_default (loader : Loader) : build {} loader [] = .ok (core loader) := by
  rw [build, Registries.build_core, core, ← Core.vocabulary_registries]
  rfl

end Compiler

end Templating
