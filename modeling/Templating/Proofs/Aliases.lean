import Templating.Proofs.Keyed
import Templating.Proofs.Outcome
import Templating.Registry.Operator

/-! # Looking up the aliases of operators

An alias that was registered names its own operator for good: adding an alias changes no other, and an
alias is never added twice. In a row of tokens an alias is found with all its words when the token behind
it is no operator.
-/

namespace Templating

namespace AliasTrie

variable {trie grown : AliasTrie} {words : List String} {id length : Nat} {tokens tail : List Token}

/-- The operator whose alias consists of the words. -/
def find? (trie : AliasTrie) : List String → Option Nat
  | [] => trie.operator
  | word :: words => (trie.children.lookup word).bind fun child => child.find? words

theorem find?_empty (words : List String) : empty.find? words = none := by
  cases words with
  | nil => rfl
  | cons word words => rfl

theorem find?_node (operator : Option Nat) (children : List (String × AliasTrie)) (word : String)
    (words : List String) :
    (node operator children).find? (word :: words) = (children.lookup word).bind fun child => child.find? words :=
  rfl

theorem find?_child (trie : AliasTrie) (word : String) (words : List String) :
    ((trie.children.lookup word).getD empty).find? words = trie.find? (word :: words) := by
  rw [find?]
  cases trie.children.lookup word with
  | none => exact find?_empty words
  | some child => rfl

/-- Adding an alias makes it known, and no other alias changes its operator. -/
theorem find?_insert (inserted : trie.insert words id = .ok grown) (others : List String) :
    grown.find? others = if others = words then some id else trie.find? others := by
  induction words generalizing trie grown others with
  | nil =>
      simp only [insert] at inserted
      cases free : trie.operator with
      | some owner =>
          rw [free] at inserted
          cases inserted
      | none =>
          rw [free] at inserted
          cases inserted
          cases others with
          | nil => rfl
          | cons word rest => rfl
  | cons word words ih =>
      simp only [insert] at inserted
      obtain ⟨child, below, built⟩ := bind_eq_ok.mp inserted
      cases built
      cases others with
      | nil => rfl
      | cons other rest =>
          simp only [find?_node, lookup_insertByKey, List.cons.injEq]
          by_cases same : other = word
          · subst same
            simp only [if_true, true_and, Option.bind_some]
            rw [ih below rest, find?_child]
          · simp only [same, if_false, false_and]
            rfl

theorem find?_of_insert (inserted : trie.insert words id = .ok grown) : trie.find? words = none := by
  induction words generalizing trie grown with
  | nil =>
      simp only [insert] at inserted
      cases free : trie.operator with
      | some owner =>
          rw [free] at inserted
          cases inserted
      | none => exact free
  | cons word words ih =>
      simp only [insert] at inserted
      obtain ⟨child, below, -⟩ := bind_eq_ok.mp inserted
      rw [← find?_child]
      exact ih below

theorem find?_insert_of_known {others : List String} {owner : Nat} (inserted : trie.insert words id = .ok grown)
    (known : trie.find? others = some owner) : grown.find? others = some owner := by
  rw [find?_insert inserted, if_neg, known]
  rintro rfl
  rw [find?_of_insert inserted] at known
  cases known

theorem longestMatch_cons (trie : AliasTrie) (token : Token) (later : List Token)
    (word : token.kind = .operator) :
    trie.longestMatch (token :: later) = (trie.children.lookup token.value).bind fun child =>
      match child.longestMatch later with
      | some (id, length) => some (id, length + 1)
      | none => child.operator.map fun id => (id, 1) := by
  rw [longestMatch, if_pos word]
  cases trie.children.lookup token.value with
  | none => rfl
  | some child => rfl

theorem longestMatch_of_not_operator {token : Token} (ending : token.kind ≠ .operator) (later : List Token) :
    trie.longestMatch (token :: later) = none := by
  rw [longestMatch, if_neg ending]

theorem longestMatch_split (found : trie.longestMatch tokens = some (id, length)) :
    ∃ words rest, tokens = words ++ rest ∧ words.length = length ∧ words ≠ [] ∧
      ∀ word ∈ words, word.kind = .operator := by
  induction tokens generalizing trie length with
  | nil => cases found
  | cons token later ih =>
      by_cases word : token.kind = .operator
      case neg =>
        rw [longestMatch_of_not_operator word] at found
        cases found
      rw [longestMatch_cons trie token later word] at found
      obtain ⟨child, -, deeper⟩ := Option.bind_eq_some_iff.mp found
      cases matched : child.longestMatch later with
      | none =>
          rw [matched] at deeper
          obtain ⟨final, -, pair⟩ := Option.map_eq_some_iff.mp deeper
          cases pair
          exact ⟨[token], later, rfl, rfl, List.cons_ne_nil _ _, by simpa using word⟩
      | some pair =>
          obtain ⟨inner, count⟩ := pair
          rw [matched] at deeper
          cases deeper
          obtain ⟨words, rest, rfl, rfl, -, operators⟩ := ih matched
          exact ⟨token :: words, rest, rfl, rfl, List.cons_ne_nil _ _, List.forall_mem_cons.mpr ⟨word, operators⟩⟩

/-- What stands behind the first token that is no operator does not matter. -/
theorem longestMatch_append {first second : Token} (firstEnds : first.kind ≠ .operator)
    (secondEnds : second.kind ≠ .operator) (trie : AliasTrie) (shared before after : List Token) :
    trie.longestMatch (shared ++ first :: before) = trie.longestMatch (shared ++ second :: after) := by
  induction shared generalizing trie with
  | nil =>
      rw [List.nil_append, List.nil_append, longestMatch_of_not_operator firstEnds,
        longestMatch_of_not_operator secondEnds]
  | cons token shared ih =>
      rw [List.cons_append, List.cons_append]
      by_cases word : token.kind = .operator
      · rw [longestMatch_cons _ _ _ word, longestMatch_cons _ _ _ word]
        simp only [ih]
      · rw [longestMatch_of_not_operator word, longestMatch_of_not_operator word]

/-- The words of an alias in front of another kind of token are matched as that alias. -/
theorem longestMatch_alias {token : Token} (ending : token.kind ≠ .operator)
    (operators : ∀ word ∈ tokens, word.kind = .operator) (some_word : tokens ≠ [])
    (known : trie.find? (tokens.map Token.value) = some id) :
    trie.longestMatch (tokens ++ token :: tail) = some (id, tokens.length) := by
  induction tokens generalizing trie with
  | nil => exact absurd rfl some_word
  | cons word later ih =>
      obtain ⟨isOperator, operators⟩ := List.forall_mem_cons.mp operators
      obtain ⟨child, step, deeper⟩ := Option.bind_eq_some_iff.mp known
      rw [List.cons_append, longestMatch_cons _ _ _ isOperator, step, Option.bind_some]
      cases later with
      | nil =>
          rw [List.nil_append, longestMatch_of_not_operator ending]
          have ends : child.operator = some id := deeper
          rw [ends]
          rfl
      | cons following rest => rw [ih operators (List.cons_ne_nil _ _) deeper]; rfl

end AliasTrie

namespace OperatorRegistry

variable {registry : OperatorRegistry}

/-- The registries that registering operators one after another leads to, whether or not some of them are
refused. -/
inductive Built : OperatorRegistry → Prop
  | empty : Built {}
  | register {registry : OperatorRegistry} (definition : OperatorDefinition) :
      Built registry → Built (registry.register definition).1

/-- Every alias of every operator names that operator. -/
def KnowsAliases (registry : OperatorRegistry) : Prop :=
  ∀ id definition, registry.get? id = some definition → ∀ spelling ∈ definition.aliases,
    (registry.table definition.arity.fixity).find? (Text.words spelling) = some id

theorem table_withTable (registry : OperatorRegistry) (fixity place : Fixity) (trie : AliasTrie) :
    (registry.withTable fixity trie).table place = if place = fixity then trie else registry.table place := by
  cases fixity <;> cases place <;> rfl

theorem definitions_withTable (registry : OperatorRegistry) (fixity : Fixity) (trie : AliasTrie) :
    (registry.withTable fixity trie).definitions = registry.definitions := by
  cases fixity <;> rfl

/-- Adding aliases keeps the operators and the aliases that are known; the new ones are known if nothing
was refused. -/
theorem addAliases_spec (registry : OperatorRegistry) (definition : OperatorDefinition) (id : Nat)
    (aliases : List String) :
    (registry.addAliases definition id aliases).1.definitions = registry.definitions ∧
      (∀ fixity words owner, (registry.table fixity).find? words = some owner →
        ((registry.addAliases definition id aliases).1.table fixity).find? words = some owner) ∧
      ((registry.addAliases definition id aliases).2 = none → ∀ spelling ∈ aliases,
        ((registry.addAliases definition id aliases).1.table definition.arity.fixity).find?
          (Text.words spelling) = some id) := by
  induction aliases generalizing registry with
  | nil => exact ⟨rfl, fun _ _ _ known => known, fun _ _ member => absurd member List.not_mem_nil⟩
  | cons spelling aliases ih =>
      rw [addAliases]
      dsimp only
      split
      · exact ⟨rfl, fun _ _ _ known => known, fun accepted => nomatch accepted⟩
      · split
        · exact ⟨rfl, fun _ _ _ known => known, fun accepted => nomatch accepted⟩
        · rename_i trie inserted
          obtain ⟨same, kept, added⟩ := ih (registry.withTable definition.arity.fixity trie)
          refine ⟨same.trans (definitions_withTable _ _ _), ?_, ?_⟩
          · intro fixity words owner known
            refine kept fixity words owner ?_
            rw [table_withTable]
            split
            · rename_i here
              subst here
              exact AliasTrie.find?_insert_of_known inserted known
            · exact known
          · intro accepted other member
            rcases List.mem_cons.mp member with rfl | later
            · refine kept _ _ _ ?_
              rw [table_withTable, if_pos rfl, AliasTrie.find?_insert inserted, if_pos rfl]
            · exact added accepted other later

theorem KnowsAliases.register (knows : registry.KnowsAliases) (definition : OperatorDefinition) :
    (registry.register definition).1.KnowsAliases := by
  obtain ⟨same, kept, added⟩ :=
    addAliases_spec registry definition registry.definitions.length definition.aliases
  rw [OperatorRegistry.register]
  split
  · rename_i extended accepted
    rw [accepted] at same kept added
    intro id found numbered spelling member
    -- The new operator has the number that its aliases were added under.
    have numbered : (registry.definitions ++ [definition])[id]? = some found := same ▸ numbered
    by_cases old : id < registry.definitions.length
    · rw [List.getElem?_append_left old] at numbered
      exact kept _ _ _ (knows id found numbered spelling member)
    · rw [List.getElem?_append_right (Nat.le_of_not_lt old)] at numbered
      obtain ⟨first, rfl⟩ : id - registry.definitions.length = 0 ∧ definition = found := by
        simpa [List.getElem?_singleton] using numbered
      have number : id = registry.definitions.length := by omega
      rw [number]
      exact added rfl spelling member
  · rename_i extended failure refused
    rw [refused] at same kept
    intro id found numbered spelling member
    have numbered : registry.get? id = some found := by rw [get?, ← same]; exact numbered
    exact kept _ _ _ (knows id found numbered spelling member)

theorem Built.knowsAliases (built : registry.Built) : registry.KnowsAliases := by
  induction built with
  | empty =>
      intro id definition numbered
      cases numbered
  | register definition _ ih => exact ih.register definition

end OperatorRegistry

end Templating
