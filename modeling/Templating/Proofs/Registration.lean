import Templating.Proofs.Aliases
import Templating.Registry.Basic

/-! # Registries without conflicts

Registries are built from extensions that are all accepted. Then every operator is found under each of its
aliases, and whatever is found is an operator of its own place: in front of an operand only operators that
stand in front are found, and behind one only the others.
-/

namespace Templating

theorem AliasTrie.find?_of_longestMatch {trie : AliasTrie} {tokens : List Token} {id length : Nat}
    (found : trie.longestMatch tokens = some (id, length)) : ∃ words, trie.find? words = some id := by
  induction tokens generalizing trie length with
  | nil => cases found
  | cons token later ih =>
      by_cases word : token.kind = .operator
      case neg =>
        rw [longestMatch_of_not_operator word] at found
        cases found
      rw [longestMatch_cons trie token later word] at found
      obtain ⟨child, step, deeper⟩ := Option.bind_eq_some_iff.mp found
      have known : ∃ words, child.find? words = some id := by
        cases matched : child.longestMatch later with
        | none =>
            rw [matched] at deeper
            obtain ⟨final, ends, pair⟩ := Option.map_eq_some_iff.mp deeper
            cases pair
            exact ⟨[], ends⟩
        | some pair =>
            obtain ⟨inner, count⟩ := pair
            rw [matched] at deeper
            cases deeper
            exact ih matched
      obtain ⟨words, known⟩ := known
      refine ⟨token.value :: words, ?_⟩
      rw [find?, step]
      exact known

namespace OperatorRegistry

variable {registry grown : OperatorRegistry} {definition : OperatorDefinition}

/-- Whatever is looked up is an alias of an operator that stands in that place. -/
def OwnsAliases (registry : OperatorRegistry) : Prop :=
  ∀ fixity words id, (registry.table fixity).find? words = some id →
    ∃ definition, registry.get? id = some definition ∧ definition.arity.fixity = fixity ∧
      words ∈ definition.aliases.map Text.words

theorem find?_of_addAliases (registry : OperatorRegistry) (definition : OperatorDefinition) (id : Nat)
    (aliases : List String) (fixity : Fixity) (words : List String) (owner : Nat)
    (known : ((registry.addAliases definition id aliases).1.table fixity).find? words = some owner) :
    (registry.table fixity).find? words = some owner ∨
      owner = id ∧ definition.arity.fixity = fixity ∧ words ∈ aliases.map Text.words := by
  induction aliases generalizing registry with
  | nil => exact .inl known
  | cons spelling aliases ih =>
      rw [addAliases] at known
      dsimp only at known
      split at known
      · exact .inl known
      · split at known
        · exact .inl known
        · rename_i trie inserted
          rcases ih _ known with before | isNew
          · rw [table_withTable] at before
            split at before
            · rename_i here
              subst here
              rw [AliasTrie.find?_insert inserted] at before
              split at before
              · rename_i same
                exact .inr ⟨(Option.some.inj before).symm, rfl, List.mem_cons.mpr (.inl same)⟩
              · exact .inl before
            · exact .inl before
          · exact .inr ⟨isNew.1, isNew.2.1, List.mem_cons_of_mem _ isNew.2.2⟩

/-- Aliases are added only if each of them is free and has no reserved word. -/
theorem alias_of_addAliases {id : Nat} {aliases : List String}
    (accepted : registry.addAliases definition id aliases = (grown, none)) :
    ∀ spelling ∈ aliases, (∀ word ∈ Text.words spelling, word ∉ reservedWords) ∧
      (registry.table definition.arity.fixity).find? (Text.words spelling) = none := by
  induction aliases generalizing registry with
  | nil => nofun
  | cons spelling aliases ih =>
      rw [addAliases] at accepted
      dsimp only at accepted
      split at accepted
      · cases accepted
      rename_i unreserved
      split at accepted
      · cases accepted
      rename_i trie inserted
      refine List.forall_mem_cons.mpr ⟨⟨fun word member => ?_, AliasTrie.find?_of_insert inserted⟩, fun other behind => ?_⟩
      · simpa using List.find?_eq_none.mp unreserved word member
      · obtain ⟨allowed, free⟩ := ih accepted other behind
        refine ⟨allowed, ?_⟩
        rw [table_withTable, if_pos rfl] at free
        rw [Option.eq_none_iff_forall_ne_some] at free ⊢
        exact fun owner known => free owner (AliasTrie.find?_insert_of_known inserted known)

theorem ownsAliases_empty : OwnsAliases {} := by
  intro fixity words id known
  have nothing : (table {} fixity).find? words = none := by
    cases fixity <;> exact AliasTrie.find?_empty words
  rw [nothing] at known
  cases known

theorem definitions_of_register (accepted : registry.register definition = (grown, none)) :
    grown.definitions = registry.definitions ++ [definition] := by
  obtain ⟨same, -, -⟩ := addAliases_spec registry definition registry.definitions.length definition.aliases
  rw [OperatorRegistry.register] at accepted
  split at accepted
  · rename_i filled adding
    cases accepted
    rw [adding] at same
    dsimp only
    rw [same]
  · cases accepted

theorem get?_of_register (accepted : registry.register definition = (grown, none)) {id : Nat} {owner : OperatorDefinition}
    (numbered : registry.get? id = some owner) : grown.get? id = some owner := by
  obtain ⟨inside, -⟩ := List.getElem?_eq_some_iff.mp numbered
  rw [get?, definitions_of_register accepted, List.getElem?_append_left inside]
  exact numbered

/-- What is looked up behind a registration was known before or is an alias of the new operator. -/
theorem find?_of_register (accepted : registry.register definition = (grown, none)) {fixity : Fixity}
    {words : List String} {id : Nat} (known : (grown.table fixity).find? words = some id) :
    (registry.table fixity).find? words = some id ∨
      grown.get? id = some definition ∧ definition.arity.fixity = fixity ∧ words ∈ definition.aliases.map Text.words := by
  have extended := find?_of_addAliases registry definition registry.definitions.length definition.aliases fixity words id
  have definitions := definitions_of_register accepted
  rw [OperatorRegistry.register] at accepted
  split at accepted
  · rename_i filled adding
    cases accepted
    rw [adding] at extended
    rcases extended known with before | ⟨rfl, isNew⟩
    · exact .inl before
    · refine .inr ⟨?_, isNew⟩
      rw [get?, definitions]
      exact List.getElem?_concat_length
  · cases accepted

theorem OwnsAliases.register (owns : registry.OwnsAliases)
    (accepted : registry.register definition = (grown, none)) : grown.OwnsAliases := by
  intro fixity words id known
  rcases find?_of_register accepted known with before | isNew
  · obtain ⟨owner, numbered, place, spelled⟩ := owns fixity words id before
    exact ⟨owner, get?_of_register accepted numbered, place, spelled⟩
  · exact ⟨definition, isNew⟩

theorem OwnsAliases.found (owns : registry.OwnsAliases) (fixity : Fixity) {tokens : List Token} {found : Found}
    (matched : registry.resolve? ((registry.table fixity).longestMatch tokens) = some found) :
    registry.get? found.id = some found.definition ∧ found.definition.arity.fixity = fixity := by
  obtain ⟨⟨id, length⟩, longest, resolved⟩ := Option.bind_eq_some_iff.mp matched
  obtain ⟨owner, numbered, rfl⟩ := Option.map_eq_some_iff.mp resolved
  obtain ⟨words, known⟩ := AliasTrie.find?_of_longestMatch longest
  obtain ⟨definition, same, place, -⟩ := owns fixity words id known
  obtain rfl : owner = definition := Option.some.inj (numbered.symm.trans same)
  exact ⟨numbered, place⟩

/-- Behind an operand no operator is found that stands in front of one. -/
theorem OwnsAliases.binaryAt? (owns : registry.OwnsAliases) {tokens : List Token} {found : Found}
    (matched : registry.binaryAt? tokens = some found) :
    registry.get? found.id = some found.definition ∧ found.definition.arity ≠ .unaryPrefix := by
  obtain ⟨numbered, place⟩ := owns.found .binary matched
  refine ⟨numbered, fun stands => ?_⟩
  rw [stands] at place
  cases place

theorem OwnsAliases.unaryAt? (owns : registry.OwnsAliases) {tokens : List Token} {found : Found}
    (matched : registry.unaryAt? tokens = some found) :
    registry.get? found.id = some found.definition ∧ found.definition.arity = .unaryPrefix := by
  obtain ⟨numbered, place⟩ := owns.found .unary matched
  refine ⟨numbered, ?_⟩
  cases stands : found.definition.arity with
  | unaryPrefix => rfl
  | binary | test | ternary =>
      rw [stands] at place
      cases place

end OperatorRegistry

namespace Registries

variable {r registered : Registries} {extensions : List Extension} {P : OperatorRegistry → Prop}

theorem build_induction {Q : Registries → Prop} (built : build extensions = .ok r) (empty : Q {})
    (step : ∀ {before after : Registries}, ∀ extension ∈ extensions, Q before →
      before.register extension = (after, none) → Q after) : Q r := by
  rw [build] at built
  generalize ({} : Registries) = start at built empty
  induction extensions generalizing start with
  | nil =>
      cases built
      exact empty
  | cons extension extensions ih =>
      obtain ⟨after, registering, rest⟩ := bind_eq_ok.mp built
      dsimp only at registering
      split at registering
      · rename_i accepted
        cases registering
        refine ih ?_ after rest (step extension List.mem_cons_self empty accepted)
        exact fun other member => step other (List.mem_cons_of_mem _ member)
      · cases registering

theorem operators_addTags (tags : List TagDefinition) : (r.addTags tags).1.operators = r.operators := by
  induction tags generalizing r with
  | nil => rfl
  | cons tag tags ih =>
      rw [addTags]
      split
      · rw [ih]
      · rfl

theorem operators_addFunctions (functions : List TemplateFunction) :
    (r.addFunctions functions).1.operators = r.operators := by
  induction functions generalizing r with
  | nil => rfl
  | cons function functions ih =>
      rw [addFunctions]
      split
      · rw [ih]
      · rfl

/-- An accepted extension registers its operators, and nothing else changes the operators. -/
theorem operators_register {extension : Extension} (accepted : r.register extension = (registered, none)) :
    ∃ between, r.addOperators extension.operators = (between, none) ∧
      registered.operators = between.operators := by
  rw [register] at accepted
  split at accepted
  · cases accepted
  · rename_i first adding
    refine ⟨first, adding, ?_⟩
    have tags := operators_addTags (r := first) extension.tags
    split at accepted
    · cases accepted
    · rename_i second tagging
      rw [tagging] at tags
      have functions := operators_addFunctions (r := second) extension.functions
      rw [accepted] at functions
      rw [functions, tags]

theorem addOperators_induction {definitions : List OperatorDefinition} (holds : P r.operators)
    (accepted : r.addOperators definitions = (registered, none))
    (step : ∀ {before after : OperatorRegistry} {definition : OperatorDefinition}, P before →
      before.register definition = (after, none) → P after) : P registered.operators := by
  induction definitions generalizing r with
  | nil =>
      cases accepted
      exact holds
  | cons definition definitions ih =>
      rw [addOperators] at accepted
      split at accepted
      · rename_i after registering
        exact ih (r := { r with operators := after }) (step holds registering) accepted
      · cases accepted

theorem operators_induction (built : build extensions = .ok r) (empty : P {})
    (step : ∀ {before after : OperatorRegistry} {definition : OperatorDefinition}, P before →
      before.register definition = (after, none) → P after) : P r.operators := by
  refine build_induction (Q := fun registries => P registries.operators) built empty ?_
  intro before after extension _ holds accepted
  obtain ⟨between, adding, same⟩ := operators_register accepted
  rw [same]
  exact addOperators_induction holds adding step

theorem built_operators (built : build extensions = .ok r) : r.operators.Built := by
  refine operators_induction built .empty ?_
  intro before after definition reached accepted
  have grown := reached.register definition
  rw [accepted] at grown
  exact grown

theorem ownsAliases_operators (built : build extensions = .ok r) : r.operators.OwnsAliases :=
  operators_induction built OperatorRegistry.ownsAliases_empty fun owns accepted => owns.register accepted

theorem tags_addOperators (definitions : List OperatorDefinition) : (r.addOperators definitions).1.tags = r.tags := by
  induction definitions generalizing r with
  | nil => rfl
  | cons definition definitions ih =>
      rw [addOperators]
      split
      · rw [ih]
      · rfl

theorem tags_addFunctions (functions : List TemplateFunction) : (r.addFunctions functions).1.tags = r.tags := by
  induction functions generalizing r with
  | nil => rfl
  | cons function functions ih =>
      rw [addFunctions]
      split
      · rw [ih]
      · rfl

theorem tags_addTags {tags : List TagDefinition} (adding : r.addTags tags = (registered, none)) :
    registered.tags.tags = r.tags.tags ++ tags := by
  induction tags generalizing r with
  | nil =>
      cases adding
      rw [List.append_nil]
  | cons tag tags ih =>
      rw [addTags] at adding
      split at adding
      · rename_i more registering
        rw [TagRegistry.register] at registering
        split at registering
        · cases registering
        · cases registering
          rw [ih adding, List.append_assoc]
          rfl
      · cases adding

theorem tags_register {extension : Extension} (registering : r.register extension = (registered, none)) :
    registered.tags.tags = r.tags.tags ++ extension.tags := by
  have operators := tags_addOperators (r := r) extension.operators
  rw [register] at registering
  split at registering
  · cases registering
  · rename_i first adding
    rw [adding] at operators
    split at registering
    · cases registering
    · rename_i second tagging
      have functions := tags_addFunctions (r := second) extension.functions
      rw [registering] at functions
      rw [functions, tags_addTags tagging, operators]

/-- The tags of all extensions stand in the order of the extensions. -/
theorem tags_of_build (built : build extensions = .ok r) : r.tags.tags = extensions.flatMap (·.tags) := by
  rw [build] at built
  show r.tags.tags = ({} : Registries).tags.tags ++ extensions.flatMap (·.tags)
  generalize ({} : Registries) = start at built ⊢
  induction extensions generalizing start with
  | nil =>
      cases built
      simp
  | cons extension extensions ih =>
      obtain ⟨after, registering, rest⟩ := bind_eq_ok.mp built
      dsimp only at registering
      split at registering
      · rename_i accepted
        cases registering
        rw [ih after rest, tags_register accepted, List.flatMap_cons, List.append_assoc]
      · cases registering

theorem mem_tags_of_build (built : build extensions = .ok r) :
    ∀ tag ∈ r.tags.tags, ∃ extension ∈ extensions, tag ∈ extension.tags := by
  intro tag there
  rw [tags_of_build built] at there
  exact List.mem_flatMap.mp there

end Registries

theorem TagRegistry.get?_of_lookup? {registry : TagRegistry} {keyword : String} {id : Nat}
    (known : registry.lookup? keyword = some id) :
    ∃ tag, registry.get? id = some tag ∧ tag.keyword = keyword := by
  obtain ⟨inside, same, -⟩ := List.findIdx?_eq_some_iff_getElem.mp known
  exact ⟨_, List.getElem?_eq_getElem inside, beq_iff_eq.mp same⟩

theorem FunctionRegistry.get?_of_lookup? {registry : FunctionRegistry} {name : String} {id : Nat}
    (known : registry.lookup? name = some id) :
    ∃ function, registry.get? id = some function ∧ function.name = name := by
  obtain ⟨inside, same, -⟩ := List.findIdx?_eq_some_iff_getElem.mp known
  exact ⟨_, List.getElem?_eq_getElem inside, beq_iff_eq.mp same⟩

end Templating
