import Templating.Proofs.Registration

/-! # Operators are found by their longest alias

Tokens name an operator with as many of their first ones as are the words of an alias of it. Looking up an
operator takes the most tokens that name one, whichever aliases share their first words and in whatever
order the operators were registered.
-/

namespace Templating

namespace AliasTrie

variable {trie grown : AliasTrie} {tokens later : List Token} {token : Token} {word : String} {words : List String}
  {id length : Nat}

/-- The first tokens, of which there are `length`, are the words of the alias of an operator. -/
def MatchesAt (trie : AliasTrie) (tokens : List Token) (id length : Nat) : Prop :=
  1 ≤ length ∧ length ≤ tokens.length ∧ (∀ token ∈ tokens.take length, token.kind = .operator) ∧
    trie.find? ((tokens.take length).map Token.value) = some id

theorem not_matchesAt_nil : ¬ trie.MatchesAt [] id length := by
  rintro ⟨positive, bounded, -⟩
  simp only [List.length_nil] at bounded
  omega

/-- An alias goes on below the first token: it ends there, or the tokens behind it match further down. -/
theorem matchesAt_cons :
    trie.MatchesAt (token :: later) id (length + 1) ↔
      token.kind = .operator ∧ ∃ child, trie.children.lookup token.value = some child ∧
        (length = 0 ∧ child.operator = some id ∨ child.MatchesAt later id length) := by
  simp only [MatchesAt, List.take_succ_cons, List.map_cons, find?, Option.bind_eq_some_iff, List.forall_mem_cons,
    List.length_cons]
  constructor
  · rintro ⟨-, bounded, ⟨isOperator, operators⟩, child, step, deeper⟩
    refine ⟨isOperator, child, step, ?_⟩
    cases length with
    | zero => exact .inl ⟨rfl, deeper⟩
    | succ length => exact .inr ⟨by omega, by omega, operators, deeper⟩
  · rintro ⟨isOperator, child, step, ⟨rfl, ends⟩ | ⟨-, bounded, operators, deeper⟩⟩
    · exact ⟨by omega, by omega, ⟨isOperator, List.forall_mem_nil _⟩, child, step, ends⟩
    · exact ⟨by omega, by omega, ⟨isOperator, operators⟩, child, step, deeper⟩

/-- What is found matches, and nothing longer does; where nothing is found, nothing matches. -/
theorem longestMatch_spec (trie : AliasTrie) (tokens : List Token) :
    (∀ id length, trie.longestMatch tokens = some (id, length) →
      trie.MatchesAt tokens id length ∧ ∀ other more, trie.MatchesAt tokens other more → more ≤ length) ∧
    (trie.longestMatch tokens = none → ∀ id length, ¬ trie.MatchesAt tokens id length) := by
  induction tokens generalizing trie with
  | nil => exact ⟨nofun, fun _ id length => not_matchesAt_nil⟩
  | cons token later ih =>
      by_cases isOperator : token.kind = .operator
      case neg =>
        rw [longestMatch_of_not_operator isOperator]
        refine ⟨nofun, fun _ id length matched => ?_⟩
        obtain ⟨inner, rfl⟩ : ∃ inner, length = inner + 1 := ⟨length - 1, by have := matched.1; omega⟩
        exact isOperator (matchesAt_cons.mp matched).1
      rw [longestMatch_cons trie token later isOperator]
      -- A match of the tokens is one of the tokens behind the first, or the first alone.
      have below : ∀ {id length}, trie.MatchesAt (token :: later) id length → ∃ inner child,
          length = inner + 1 ∧ trie.children.lookup token.value = some child ∧
            (inner = 0 ∧ child.operator = some id ∨ child.MatchesAt later id inner) := by
        intro id length matched
        obtain ⟨inner, rfl⟩ : ∃ inner, length = inner + 1 := ⟨length - 1, by have := matched.1; omega⟩
        obtain ⟨-, child, step, deeper⟩ := matchesAt_cons.mp matched
        exact ⟨inner, child, rfl, step, deeper⟩
      cases step : trie.children.lookup token.value with
      | none =>
          refine ⟨nofun, fun _ id length matched => ?_⟩
          obtain ⟨inner, child, -, there, -⟩ := below matched
          rw [step] at there
          cases there
      | some child =>
          obtain ⟨sound, complete⟩ := ih child
          rw [Option.bind_some]
          cases found : child.longestMatch later with
          | some pair =>
              obtain ⟨inner, count⟩ := pair
              obtain ⟨matched, longest⟩ := sound inner count found
              refine ⟨?_, nofun⟩
              rintro id length ⟨⟩
              refine ⟨matchesAt_cons.mpr ⟨isOperator, child, step, .inr matched⟩, fun other more longer => ?_⟩
              obtain ⟨less, deeper, rfl, there, ⟨rfl, -⟩ | behind⟩ := below longer
              · omega
              · obtain rfl := Option.some.inj (step.symm.trans there)
                have := longest other less behind
                omega
          | none =>
              have alone := complete found
              have single : ∀ {id length}, trie.MatchesAt (token :: later) id length →
                  length = 1 ∧ child.operator = some id := by
                intro id length matched
                obtain ⟨inner, deeper, rfl, there, ends | behind⟩ := below matched
                · obtain rfl := Option.some.inj (step.symm.trans there)
                  exact ⟨by rw [ends.1], ends.2⟩
                · obtain rfl := Option.some.inj (step.symm.trans there)
                  exact absurd behind (alone id inner)
              constructor
              · intro id length ends
                obtain ⟨owner, final, ⟨⟩⟩ := Option.map_eq_some_iff.mp ends
                exact ⟨matchesAt_cons.mpr ⟨isOperator, child, step, .inl ⟨rfl, final⟩⟩,
                  fun other more longer => Nat.le_of_eq (single longer).1⟩
              · intro nothing id length matched
                rw [(single matched).2] at nothing
                cases nothing

theorem longestMatch_eq_some_iff :
    trie.longestMatch tokens = some (id, length) ↔
      trie.MatchesAt tokens id length ∧ ∀ other more, trie.MatchesAt tokens other more → more ≤ length := by
  obtain ⟨sound, complete⟩ := longestMatch_spec trie tokens
  refine ⟨sound id length, fun ⟨matched, longest⟩ => ?_⟩
  cases found : trie.longestMatch tokens with
  | none => exact absurd matched (complete found id length)
  | some pair =>
      obtain ⟨other, more⟩ := pair
      obtain ⟨also, bound⟩ := sound other more found
      -- Two matches of one length are the same alias.
      obtain rfl : more = length := Nat.le_antisymm (longest other more also) (bound id length matched)
      rw [Option.some.inj (also.2.2.2.symm.trans matched.2.2.2)]

theorem longestMatch_eq_none_iff :
    trie.longestMatch tokens = none ↔ ∀ id length, ¬ trie.MatchesAt tokens id length := by
  obtain ⟨sound, complete⟩ := longestMatch_spec trie tokens
  refine ⟨complete, fun nothing => ?_⟩
  cases found : trie.longestMatch tokens with
  | none => rfl
  | some pair => exact absurd (sound pair.1 pair.2 found).1 (nothing pair.1 pair.2)

/-- Every word that goes on from the top is the first one of an alias. -/
def Leads (trie : AliasTrie) : Prop :=
  ∀ word, trie.startsWith word = true → ∃ words id, trie.find? (word :: words) = some id

theorem leads_empty : empty.Leads := by
  intro word starts
  cases starts

theorem Leads.insert (leads : trie.Leads) (inserted : trie.insert words id = .ok grown) : grown.Leads := by
  intro word starts
  by_cases own : ∃ rest, words = word :: rest
  · obtain ⟨rest, rfl⟩ := own
    exact ⟨rest, id, by rw [find?_insert inserted, if_pos rfl]⟩
  · have before : trie.startsWith word = true := by
      cases words with
      | nil =>
          rw [AliasTrie.insert] at inserted
          split at inserted
          · cases inserted
          · cases inserted
            exact starts
      | cons first rest =>
          rw [AliasTrie.insert] at inserted
          obtain ⟨child, -, ⟨⟩⟩ := bind_eq_ok.mp inserted
          rw [startsWith, children, lookup_insertByKey, if_neg] at starts
          · exact starts
          · rintro rfl
            exact own ⟨rest, rfl⟩
    obtain ⟨rest, owner, known⟩ := leads word before
    exact ⟨rest, owner, find?_insert_of_known inserted known⟩

theorem Leads.startsWith_iff (leads : trie.Leads) :
    trie.startsWith word = true ↔ ∃ words id, trie.find? (word :: words) = some id := by
  refine ⟨leads word, fun ⟨words, id, known⟩ => ?_⟩
  obtain ⟨child, step, -⟩ := Option.bind_eq_some_iff.mp known
  rw [startsWith, step]
  rfl

end AliasTrie

namespace OperatorRegistry

variable {registry other : OperatorRegistry} {definitions reordered : List OperatorDefinition} {fixity : Fixity}
  {tokens : List Token} {id length : Nat}

/-- The longest alias of the operators at a place, at the front of the tokens. -/
def matchAt (registry : OperatorRegistry) : Fixity → List Token → Option (Nat × Nat)
  | .unary => registry.matchUnary
  | .binary => registry.matchBinary

theorem matchAt_eq (registry : OperatorRegistry) (fixity : Fixity) (tokens : List Token) :
    registry.matchAt fixity tokens = (registry.table fixity).longestMatch tokens := by
  cases fixity <;> rfl

/-- The registry that registering operators in order leads to, none of which is refused. -/
inductive Accepts : List OperatorDefinition → OperatorRegistry → Prop
  | nil : Accepts [] {}
  | register {definitions : List OperatorDefinition} {registry : OperatorRegistry} {definition : OperatorDefinition} :
      Accepts definitions registry → (registry.register definition).2 = none →
      Accepts (definitions ++ [definition]) (registry.register definition).1

/-- The first tokens, of which there are `length`, are operator tokens with the words of an alias of the
operator `id`, which stands at the place. -/
def Names (registry : OperatorRegistry) (fixity : Fixity) (tokens : List Token) (id length : Nat) : Prop :=
  1 ≤ length ∧ length ≤ tokens.length ∧ (∀ token ∈ tokens.take length, token.kind = .operator) ∧
    ∃ definition, registry.get? id = some definition ∧ definition.arity.fixity = fixity ∧
      (tokens.take length).map Token.value ∈ definition.aliases.map Text.words

theorem leads_addAliases (leads : ∀ fixity, (registry.table fixity).Leads) (definition : OperatorDefinition) (id : Nat)
    (aliases : List String) :
    ∀ fixity, ((registry.addAliases definition id aliases).1.table fixity).Leads := by
  induction aliases generalizing registry with
  | nil => exact leads
  | cons spelling aliases ih =>
      rw [addAliases]
      dsimp only
      split
      · exact leads
      · split
        · exact leads
        · rename_i trie inserted
          refine ih fun fixity => ?_
          rw [table_withTable]
          split
          · exact (leads _).insert inserted
          · exact leads fixity

theorem Built.leads (built : registry.Built) (fixity : Fixity) : (registry.table fixity).Leads := by
  induction built generalizing fixity with
  | empty => cases fixity <;> exact AliasTrie.leads_empty
  | @register registry definition _ ih =>
      have leads := leads_addAliases ih definition registry.definitions.length definition.aliases fixity
      rw [OperatorRegistry.register]
      split
      · rename_i adding
        rw [adding] at leads
        exact leads
      · rename_i adding
        rw [adding] at leads
        exact leads

namespace Accepts

theorem definitions_eq (accepts : Accepts definitions registry) : registry.definitions = definitions := by
  induction accepts with
  | nil => rfl
  | register _ accepted ih => rw [definitions_of_register (Prod.ext rfl accepted), ih]

theorem built (accepts : Accepts definitions registry) : registry.Built := by
  induction accepts with
  | nil => exact .empty
  | register _ _ ih => exact ih.register _

theorem ownsAliases (accepts : Accepts definitions registry) : registry.OwnsAliases := by
  induction accepts with
  | nil => exact ownsAliases_empty
  | register _ accepted ih => exact ih.register (Prod.ext rfl accepted)

theorem leads (accepts : Accepts definitions registry) (fixity : Fixity) : (registry.table fixity).Leads :=
  accepts.built.leads fixity

/-- Words are looked up exactly if an operator at the place has them for an alias. -/
theorem find?_eq_some_iff (accepts : Accepts definitions registry) {words : List String} :
    (registry.table fixity).find? words = some id ↔
      ∃ definition, registry.get? id = some definition ∧ definition.arity.fixity = fixity ∧
        words ∈ definition.aliases.map Text.words := by
  refine ⟨accepts.ownsAliases fixity words id, ?_⟩
  rintro ⟨definition, numbered, rfl, spelled⟩
  obtain ⟨spelling, member, rfl⟩ := List.mem_map.mp spelled
  exact accepts.built.knowsAliases id definition numbered spelling member

theorem matchesAt_iff (accepts : Accepts definitions registry) :
    (registry.table fixity).MatchesAt tokens id length ↔ registry.Names fixity tokens id length := by
  rw [AliasTrie.MatchesAt, Names, accepts.find?_eq_some_iff]

theorem matchAt_eq_some_iff (accepts : Accepts definitions registry) :
    registry.matchAt fixity tokens = some (id, length) ↔ registry.Names fixity tokens id length ∧
      ∀ other more, registry.Names fixity tokens other more → more ≤ length := by
  rw [matchAt_eq, AliasTrie.longestMatch_eq_some_iff]
  simp only [accepts.matchesAt_iff]

theorem matchAt_eq_none_iff (accepts : Accepts definitions registry) :
    registry.matchAt fixity tokens = none ↔ ∀ id length, ¬ registry.Names fixity tokens id length := by
  rw [matchAt_eq, AliasTrie.longestMatch_eq_none_iff]
  simp only [accepts.matchesAt_iff]

/-- A word starts an alias exactly if it is the first word of an alias of an operator at the place. -/
theorem startsWith_iff (accepts : Accepts definitions registry) {word : String} :
    (registry.table fixity).startsWith word = true ↔
      ∃ definition ∈ definitions, definition.arity.fixity = fixity ∧
        ∃ spelling ∈ definition.aliases, (Text.words spelling).head? = some word := by
  rw [(accepts.leads fixity).startsWith_iff]
  constructor
  · rintro ⟨words, id, known⟩
    obtain ⟨definition, numbered, place, spelled⟩ := accepts.find?_eq_some_iff.mp known
    obtain ⟨spelling, member, same⟩ := List.mem_map.mp spelled
    rw [get?, accepts.definitions_eq] at numbered
    exact ⟨definition, List.mem_of_getElem? numbered, place, spelling, member, by rw [same]; rfl⟩
  · rintro ⟨definition, registered, place, spelling, member, first⟩
    obtain ⟨rest, same⟩ := List.head?_eq_some_iff.mp first
    obtain ⟨id, numbered⟩ := List.mem_iff_getElem?.mp registered
    refine ⟨rest, id, accepts.find?_eq_some_iff.mpr ⟨definition, ?_, place, List.mem_map.mpr ⟨spelling, member, same⟩⟩⟩
    rw [get?, accepts.definitions_eq]
    exact numbered

/-- The same operators in another order are named by the same tokens, under other numbers. -/
theorem names_of_perm (accepts : Accepts definitions registry) (again : Accepts reordered other)
    (same : definitions.Perm reordered) (named : registry.Names fixity tokens id length) :
    ∃ number, other.Names fixity tokens number length ∧ other.get? number = registry.get? id := by
  obtain ⟨positive, bounded, operators, definition, numbered, place, spelled⟩ := named
  have registered : definition ∈ reordered := by
    rw [← same.mem_iff, ← accepts.definitions_eq]
    exact List.mem_of_getElem? numbered
  obtain ⟨number, there⟩ := List.mem_iff_getElem?.mp registered
  rw [← again.definitions_eq] at there
  exact ⟨number, ⟨positive, bounded, operators, definition, there, place, spelled⟩, there.trans numbered.symm⟩

theorem matchAt_of_perm (accepts : Accepts definitions registry) (again : Accepts reordered other)
    (same : definitions.Perm reordered) :
    ((registry.matchAt fixity tokens).map fun found => (registry.get? found.1, found.2)) =
      (other.matchAt fixity tokens).map fun found => (other.get? found.1, found.2) := by
  cases found : registry.matchAt fixity tokens with
  | none =>
      have nothing : other.matchAt fixity tokens = none := by
        refine again.matchAt_eq_none_iff.mpr fun id length named => ?_
        obtain ⟨number, also, -⟩ := names_of_perm again accepts same.symm named
        exact accepts.matchAt_eq_none_iff.mp found number length also
      rw [nothing]
      rfl
  | some pair =>
      obtain ⟨named, longest⟩ := accepts.matchAt_eq_some_iff.mp found
      obtain ⟨number, also, owner⟩ := accepts.names_of_perm again same named
      have matched : other.matchAt fixity tokens = some (number, pair.2) := by
        refine again.matchAt_eq_some_iff.mpr ⟨also, fun id more longer => ?_⟩
        obtain ⟨earlier, back, -⟩ := names_of_perm again accepts same.symm longer
        exact longest earlier more back
      rw [matched, Option.map_some, Option.map_some, owner]

end Accepts

/-- Operators are looked up by their longest alias: a match takes the most tokens that name an operator at the
place and gives the operator they name, there is none exactly if no tokens name one, and a word starts an alias
exactly if some alias begins with it. The order of registration changes the numbers of the operators only. -/
theorem longest_alias_matched (accepts : Accepts definitions registry) (fixity : Fixity) (tokens : List Token) :
    (∀ id length, registry.matchAt fixity tokens = some (id, length) ↔
      registry.Names fixity tokens id length ∧
        ∀ other more, registry.Names fixity tokens other more → more ≤ length) ∧
    (registry.matchAt fixity tokens = none ↔ ∀ id length, ¬ registry.Names fixity tokens id length) ∧
    (∀ word, (registry.table fixity).startsWith word = true ↔
      ∃ definition ∈ definitions, definition.arity.fixity = fixity ∧
        ∃ spelling ∈ definition.aliases, (Text.words spelling).head? = some word) ∧
    ∀ reordered other, Accepts reordered other → definitions.Perm reordered →
      ((registry.matchAt fixity tokens).map fun found => (registry.get? found.1, found.2)) =
        (other.matchAt fixity tokens).map fun found => (other.get? found.1, found.2) :=
  ⟨fun _ _ => accepts.matchAt_eq_some_iff, accepts.matchAt_eq_none_iff, fun _ => accepts.startsWith_iff,
    fun _ _ again same => accepts.matchAt_of_perm again same⟩

/-- Tests whose aliases share their first words. -/
def sharedTests : List OperatorDefinition :=
  [⟨"same", ["is"], 20, .left, .test true, .binary "eq"⟩, ⟨"other", ["is  not", "isn't"], 20, .left, .test true, .binary "ne"⟩,
    ⟨"indivisible", ["is not divisible by"], 20, .left, .test true, .negate (.binary "divisible_by")⟩]

/-- The words of an alias that breaks off. -/
def brokenAlias : List Token :=
  [⟨.operator, "is", 1⟩, ⟨.operator, "not", 1⟩, ⟨.operator, "divisible", 1⟩, ⟨.literal, "3", 1⟩]

theorem brokenAlias_matched :
    ∃ registry other, Accepts sharedTests registry ∧ Accepts sharedTests.reverse other ∧
      registry.Names .binary brokenAlias 1 2 ∧
      (∀ id more, registry.Names .binary brokenAlias id more → more ≤ 2) ∧
      ((other.matchAt .binary brokenAlias).map fun found => (other.get? found.1, found.2)) =
        some (sharedTests[1]?, 2) := by
  have accepts : Accepts sharedTests _ :=
    .register (.register (.register .nil (by decide +kernel)) (by decide +kernel)) (by decide +kernel)
  have again : Accepts sharedTests.reverse _ :=
    .register (.register (.register .nil (by decide +kernel)) (by decide +kernel)) (by decide +kernel)
  refine ⟨_, _, accepts, again, ?_⟩
  obtain ⟨found, -, -, reorder⟩ := longest_alias_matched accepts .binary brokenAlias
  obtain ⟨named, longest⟩ := (found 1 2).mp (by decide +kernel)
  refine ⟨named, longest, ?_⟩
  rw [← reorder _ _ again (List.reverse_perm _).symm, (found 1 2).mpr ⟨named, longest⟩]
  decide +kernel

end OperatorRegistry

end Templating
