import Templating.Value.Basic
import Templating.Token.Basic

/-! # Aliases of operators

The aliases of operators, word by word. Looking up an alias follows the operator tokens as far as they go
and takes the longest alias on the way, whichever was added first.
-/

namespace Templating

/-- Aliases that share their first words share a way from the top. -/
inductive AliasTrie where
  /-- A place: the operator whose alias ends here, and the words that go on from here. -/
  | node (operator : Option Nat) (children : List (String × AliasTrie))
deriving Repr, Inhabited

namespace AliasTrie

/-- No alias at all. -/
def empty : AliasTrie :=
  node none []

/-- The operator whose alias ends here. -/
def operator : AliasTrie → Option Nat
  | node operator _ => operator

/-- The words that go on from here. -/
def children : AliasTrie → List (String × AliasTrie)
  | node _ children => children

/-- Adds an alias of an operator. If the alias is taken, gives the operator that has it. -/
def insert (trie : AliasTrie) (words : List String) (id : Nat) : Except Nat AliasTrie :=
  match words with
  | [] =>
    match trie.operator with
    | some owner => .error owner
    | none => .ok (node (some id) trie.children)
  | word :: words => do
    let child ← insert ((trie.children.lookup word).getD empty) words id
    return node trie.operator (insertByKey word child trie.children)

/-- The operator with the longest alias at the front of the tokens, and how many tokens the alias has. -/
def longestMatch (trie : AliasTrie) (tokens : List Token) : Option (Nat × Nat) :=
  match tokens with
  | [] => none
  | token :: later =>
    if token.kind = .operator then
      match trie.children.lookup token.value with
      | none => none
      | some child =>
        match child.longestMatch later with
        | some (id, length) => some (id, length + 1)
        | none => child.operator.map fun id => (id, 1)
    else none

/-- Whether an alias starts with a word. -/
def startsWith (trie : AliasTrie) (word : String) : Bool :=
  (trie.children.lookup word).isSome

end AliasTrie

end Templating
