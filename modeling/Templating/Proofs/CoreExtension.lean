import Templating.Compiler.Basic

/-! # The core extension of every compiler

Every compiler has the core extension. It is registered first and without a conflict. The registries that this leads to
are spelled out here, so that nothing that is evaluated for a compiler has to register it once more.
-/

namespace Templating

/-- A place in a trie of aliases behind which no word goes on. -/
def AliasTrie.leaf (id : Nat) : AliasTrie :=
  node (some id) []

namespace Core

open AliasTrie (leaf node)

/-- The aliases of the core operators in front of an operand. -/
def unaryAliases : AliasTrie :=
  node none [("!", leaf 4), ("+", leaf 35), ("-", leaf 34), ("not", leaf 4)]

/-- The aliases that go on behind "is not". -/
def refusalAliases : AliasTrie :=
  node (some 11) [("divisible", node none [("by", leaf 21)]), ("empty", leaf 13), ("even", leaf 17), ("like", leaf 23),
    ("odd", leaf 19), ("same", node none [("as", leaf 11)]), ("set", leaf 15)]

/-- The aliases that go on behind "is". -/
def testAliases : AliasTrie :=
  node (some 12) [("divisible", node none [("by", leaf 22)]), ("empty", leaf 14), ("even", leaf 18), ("like", leaf 24),
    ("not", refusalAliases), ("odd", leaf 20), ("same", node none [("as", leaf 12)]), ("set", leaf 16)]

/-- The aliases of the core operators behind an operand. -/
def binaryAliases : AliasTrie :=
  node none [("!=", leaf 6), ("!==", leaf 11), ("%", leaf 33), ("&&", leaf 3), ("*", leaf 31), ("**", leaf 36),
    ("+", leaf 29), ("-", leaf 30), ("..", leaf 27), ("/", leaf 32), ("<", leaf 7), ("<=", leaf 8), ("==", leaf 5),
    ("===", leaf 12), (">", leaf 9), (">=", leaf 10), ("?", leaf 0), ("and", leaf 3), ("in", leaf 26),
    ("is", testAliases), ("not", node none [("in", leaf 25)]), ("or", leaf 1), ("xor", leaf 2), ("||", leaf 1),
    ("~", leaf 28)]

/-- The registries with nothing but the core extension. -/
def registries : Registries where
  operators := { definitions := operators, unary := unaryAliases, binary := binaryAliases }
  tags := ⟨tags⟩
  functions := ⟨functions⟩

theorem register_core : ({} : Registries).register extension = (registries, none) := by
  rfl

end Core

namespace Registries

variable {r : Registries} {extensions : List Extension}

/-- Further extensions are added to the registries of the core extension. -/
theorem build_core (extensions : List Extension) :
    build (Core.extension :: extensions) = extensions.foldlM
      (fun registries extension =>
        match registries.register extension with
        | (registries, none) => .ok registries
        | (_, some e) => .error e)
      Core.registries := by
  rw [build, List.foldlM_cons, Core.register_core]
  rfl

theorem eq_core_of_build (built : build [Core.extension] = .ok r) : r = Core.registries := by
  rw [build_core] at built
  exact (Except.ok.inj built).symm

end Registries

namespace Compiler

variable {config : Config} {loader : Loader} {extensions : List Extension} {c : Compiler}

/-- What is built is a compiler without further passes and with an empty cache, over the registries. -/
theorem build_eq_ok (built : Compiler.build config loader extensions = .ok c) :
    config.fault? = none ∧ ∃ registries, Registries.build (Core.extension :: extensions) = .ok registries ∧
      c = { config := config, registries := registries, vocabulary := registries.vocabulary config.delimiters,
            loader := loader } := by
  revert built
  fun_cases Compiler.build config loader extensions with
  | case1 | case2 | case3 =>
      intro refused
      cases refused
  | case4 sound registries registered =>
      intro built
      cases built
      exact ⟨sound, registries, registered, rfl⟩

end Compiler

end Templating
