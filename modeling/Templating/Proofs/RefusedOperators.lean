import Templating.Proofs.AliasLookup

/-! # Operators that are refused

An operator with a conflict is left out, but the aliases in front of the one in conflict stay in the table, under the
number that the next operator will get. So a refusal leaves the look-ups as they were exactly if no words had been added
by then, and as long as every refusal does, whatever is looked up is an operator with that alias.
-/

namespace Templating.OperatorRegistry

variable {registry grown after later : OperatorRegistry} {definition : OperatorDefinition} {id : Nat}
  {kept aliases : List String} {fixity : Fixity} {words : List String} {e : RegistryError}

theorem addAliases_append (registry : OperatorRegistry) (definition : OperatorDefinition) (id : Nat)
    (first second : List String) :
    registry.addAliases definition id (first ++ second) =
      match registry.addAliases definition id first with
      | (grown, none) => grown.addAliases definition id second
      | (grown, some e) => (grown, some e) := by
  induction first generalizing registry with
  | nil => rfl
  | cons spelling first ih =>
      rw [List.cons_append, addAliases, addAliases]
      dsimp only
      split
      · rfl
      · split
        · rfl
        · exact ih _

/-- Only the name and the place of an operator matter where its aliases are added. -/
theorem addAliases_withAliases (registry : OperatorRegistry) (definition : OperatorDefinition) (id : Nat)
    (others aliases : List String) :
    registry.addAliases { definition with aliases := others } id aliases = registry.addAliases definition id aliases := by
  induction aliases generalizing registry with
  | nil => rfl
  | cons spelling aliases ih =>
      rw [addAliases, addAliases]
      dsimp only
      split
      · rfl
      · split
        · rfl
        · exact ih _

theorem eq_of_refused {spelling : String} (refused : registry.addAliases definition id [spelling] = (after, some e)) :
    after = registry := by
  rw [addAliases] at refused
  dsimp only at refused
  split at refused
  · cases refused
    rfl
  · split at refused
    · cases refused
      rfl
    · cases refused

/-- Where an alias is refused, those in front of it are added and nothing else is. -/
theorem exists_refused (refused : registry.addAliases definition id aliases = (after, some e)) :
    ∃ kept spelling rest, aliases = kept ++ spelling :: rest ∧ registry.addAliases definition id kept = (after, none) ∧
      after.addAliases definition id [spelling] = (after, some e) := by
  induction aliases generalizing registry with
  | nil => cases refused
  | cons spelling aliases ih =>
      have first := addAliases_append registry definition id [spelling] aliases
      rw [List.singleton_append, refused] at first
      cases adding : registry.addAliases definition id [spelling] with
      | mk grown failure =>
          rw [adding] at first
          cases failure with
          | none =>
              obtain ⟨kept, other, rest, rfl, adds, stops⟩ := ih first.symm
              refine ⟨spelling :: kept, other, rest, rfl, ?_, stops⟩
              have both := addAliases_append registry definition id [spelling] kept
              rw [adding] at both
              exact both.trans adds
          | some failure =>
              cases first
              obtain rfl := eq_of_refused adding
              exact ⟨[], spelling, aliases, rfl, rfl, adding⟩

theorem find?_addAliases (accepted : registry.addAliases definition id aliases = (grown, none)) (fixity : Fixity)
    (words : List String) :
    (grown.table fixity).find? words =
      if fixity = definition.arity.fixity ∧ words ∈ aliases.map Text.words then some id
      else (registry.table fixity).find? words := by
  obtain ⟨-, stays, added⟩ := addAliases_spec registry definition id aliases
  have others := find?_of_addAliases registry definition id aliases fixity words
  rw [accepted] at stays added others
  split
  · rename_i own
    obtain ⟨rfl, isAlias⟩ := own
    obtain ⟨spelling, member, rfl⟩ := List.mem_map.mp isAlias
    exact added rfl spelling member
  · rename_i other
    refine Option.ext fun owner => ⟨fun known => ?_, stays fixity words owner⟩
    rcases others owner known with before | ⟨-, place, isAlias⟩
    · exact before
    · exact absurd ⟨place.symm, isAlias⟩ other

/-- Two registries look the same words up, and the same aliases in front of tokens. -/
def LooksUpLike (registry other : OperatorRegistry) : Prop :=
  ∀ fixity, (∀ tokens, registry.matchAt fixity tokens = other.matchAt fixity tokens) ∧
    ∀ word, (registry.table fixity).startsWith word = (other.table fixity).startsWith word

/-- The operator tokens of some words. -/
def wordTokens (words : List String) : List Token :=
  words.map fun word => ⟨.operator, word, 1⟩

theorem values_wordTokens (words : List String) : ((wordTokens words).take words.length).map Token.value = words := by
  have length : (wordTokens words).length = words.length := List.length_map _
  rw [List.take_of_length_le length.le, wordTokens, List.map_map]
  exact List.map_id _

theorem matchAt_wordTokens (some_word : words ≠ []) :
    registry.matchAt fixity (wordTokens words) = some (id, words.length) ↔
      (registry.table fixity).find? words = some id := by
  have length : (wordTokens words).length = words.length := List.length_map _
  rw [matchAt_eq, AliasTrie.longestMatch_eq_some_iff, AliasTrie.MatchesAt, values_wordTokens]
  refine ⟨fun found => found.1.2.2.2, fun known => ⟨⟨List.length_pos_iff.mpr some_word, length.ge, ?_, known⟩, ?_⟩⟩
  · intro token taken
    obtain ⟨word, -, rfl⟩ := List.mem_map.mp (List.mem_of_mem_take taken)
    rfl
  · rintro other more ⟨-, bounded, -⟩
    exact bounded.trans length.le

theorem values_ne_nil {tokens : List Token} {length : Nat} (positive : 1 ≤ length) (bounded : length ≤ tokens.length) :
    (tokens.take length).map Token.value ≠ [] := by
  rw [← List.length_pos_iff, List.length_map, List.length_take]
  omega

theorem matchAt_congr {other : OperatorRegistry}
    (same : ∀ words ≠ [], (registry.table fixity).find? words = (other.table fixity).find? words) (tokens : List Token) :
    registry.matchAt fixity tokens = other.matchAt fixity tokens := by
  have matches_ : ∀ id length, (registry.table fixity).MatchesAt tokens id length ↔
      (other.table fixity).MatchesAt tokens id length := by
    intro id length
    unfold AliasTrie.MatchesAt
    refine and_congr_right fun positive => and_congr_right fun bounded => and_congr_right fun _ => ?_
    rw [same _ (values_ne_nil positive bounded)]
  refine Option.ext fun ⟨id, length⟩ => ?_
  rw [matchAt_eq, matchAt_eq]
  refine AliasTrie.longestMatch_eq_some_iff.trans (Iff.trans ?_ AliasTrie.longestMatch_eq_some_iff.symm)
  simp only [matches_]

theorem looksUpLike_iff (accepted : registry.addAliases definition id kept = (after, none))
    (leads : ∀ fixity, (registry.table fixity).Leads) (leadsAfter : ∀ fixity, (after.table fixity).Leads) :
    after.LooksUpLike registry ↔ ∀ spelling ∈ kept, Text.words spelling = [] := by
  constructor
  · intro same spelling member
    by_contra some_word
    obtain ⟨-, free⟩ := alias_of_addAliases accepted spelling member
    have known : (after.table definition.arity.fixity).find? (Text.words spelling) = some id := by
      rw [find?_addAliases accepted, if_pos ⟨rfl, List.mem_map_of_mem member⟩]
    have found := (matchAt_wordTokens some_word).mpr known
    rw [(same _).1, matchAt_wordTokens some_word, free] at found
    cases found
  · intro blank fixity
    have same : ∀ words ≠ [], (after.table fixity).find? words = (registry.table fixity).find? words := by
      intro words some_word
      rw [find?_addAliases accepted, if_neg]
      rintro ⟨-, isAlias⟩
      obtain ⟨spelling, member, rfl⟩ := List.mem_map.mp isAlias
      exact some_word (blank spelling member)
    refine ⟨matchAt_congr same, fun word => ?_⟩
    rw [Bool.eq_iff_iff, (leadsAfter fixity).startsWith_iff, (leads fixity).startsWith_iff]
    simp only [same _ (List.cons_ne_nil _ _)]

/-- Whatever is found in front of tokens is an operator with that alias. -/
def OwnsMatches (registry : OperatorRegistry) : Prop :=
  ∀ fixity tokens id length, registry.matchAt fixity tokens = some (id, length) → registry.Names fixity tokens id length

/-- Registrations lead from one registry to another, and none of them is refused after it has changed a look-up. -/
inductive Continues (registry : OperatorRegistry) : OperatorRegistry → Prop where
  | here : Continues registry registry
  | accepted {later grown : OperatorRegistry} {definition : OperatorDefinition} :
      Continues registry later → later.register definition = (grown, none) → Continues registry grown
  | refused {later after : OperatorRegistry} {definition : OperatorDefinition} {e : RegistryError} :
      Continues registry later → later.register definition = (after, some e) → after.LooksUpLike later →
      Continues registry after

theorem OwnsMatches.owner (owns : registry.OwnsMatches) (some_word : words ≠ [])
    (known : (registry.table fixity).find? words = some id) :
    ∃ definition, registry.get? id = some definition ∧ definition.arity.fixity = fixity ∧
      words ∈ definition.aliases.map Text.words := by
  obtain ⟨-, -, -, owner⟩ := owns fixity _ id words.length ((matchAt_wordTokens some_word).mpr known)
  rwa [values_wordTokens] at owner

theorem OwnsMatches.accepted (owns : registry.OwnsMatches) (accepted : registry.register definition = (grown, none)) :
    grown.OwnsMatches := by
  intro fixity tokens id length found
  rw [matchAt_eq] at found
  obtain ⟨⟨positive, bounded, operators, known⟩, -⟩ := AliasTrie.longestMatch_eq_some_iff.mp found
  refine ⟨positive, bounded, operators, ?_⟩
  rcases find?_of_register accepted known with before | isNew
  · obtain ⟨owner, numbered, place, isAlias⟩ := owns.owner (values_ne_nil positive bounded) before
    exact ⟨owner, get?_of_register accepted numbered, place, isAlias⟩
  · exact ⟨definition, isNew⟩

theorem definitions_of_refused (refused : registry.register definition = (after, some e)) :
    after.definitions = registry.definitions := by
  obtain ⟨same, -, -⟩ := addAliases_spec registry definition registry.definitions.length definition.aliases
  rw [OperatorRegistry.register] at refused
  split at refused
  · cases refused
  · rename_i adding
    cases refused
    rwa [adding] at same

theorem OwnsMatches.refused (owns : registry.OwnsMatches) (refused : registry.register definition = (after, some e))
    (same : after.LooksUpLike registry) : after.OwnsMatches := by
  intro fixity tokens id length found
  rw [(same fixity).1] at found
  obtain ⟨positive, bounded, operators, owner⟩ := owns fixity tokens id length found
  refine ⟨positive, bounded, operators, ?_⟩
  rwa [get?, definitions_of_refused refused]

theorem Continues.ownsMatches (continues : registry.Continues later) (owns : registry.OwnsMatches) : later.OwnsMatches := by
  induction continues with
  | here => exact owns
  | accepted _ accepted ih => exact ih.accepted accepted
  | refused _ refused same ih => exact ih.refused refused same

/-- A refusal is due to one alias, and the aliases in front of it are all that has changed. -/
theorem exists_refused_of_register (refused : registry.register definition = (after, some e)) :
    ∃ kept spelling rest, definition.aliases = kept ++ spelling :: rest ∧
      registry.addAliases definition registry.definitions.length kept = (after, none) ∧
      after.addAliases definition registry.definitions.length [spelling] = (after, some e) := by
  rw [OperatorRegistry.register] at refused
  split at refused
  · cases refused
  · rename_i adding
    cases refused
    exact exists_refused adding

theorem register_kept (accepted : registry.addAliases definition registry.definitions.length kept = (after, none)) :
    registry.register { definition with aliases := kept } =
      ({ after with definitions := after.definitions ++ [{ definition with aliases := kept }] }, none) := by
  rw [OperatorRegistry.register, addAliases_withAliases, accepted]

theorem register_refused {spelling : String}
    (accepted : registry.addAliases definition registry.definitions.length kept = (after, none))
    (refused : after.addAliases definition registry.definitions.length [spelling] = (after, some e)) :
    registry.register { definition with aliases := kept ++ [spelling] } = (after, some e) := by
  rw [OperatorRegistry.register, addAliases_withAliases, addAliases_append, accepted]
  dsimp only
  rw [refused]

/-- An operator is refused because of one alias: with the aliases in front of it alone it is accepted, and with that one
it is not. The operators stay the same, but the aliases in front of it are kept under the number of the next operator. So
what is looked up stays the same exactly if none of these has a word, and then everything that is found by later
registrations is an operator with the alias that was found. -/
theorem refused_keeps_front (built : registry.Built) (refused : registry.register definition = (after, some e)) :
    ∃ kept spelling rest, definition.aliases = kept ++ spelling :: rest ∧
      (registry.register { definition with aliases := kept }).2 = none ∧
      registry.register { definition with aliases := kept ++ [spelling] } = (after, some e) ∧
      after.definitions = registry.definitions ∧
      (∀ other ∈ kept, Text.words other ≠ [] →
        registry.matchAt definition.arity.fixity (wordTokens (Text.words other)) ≠
          after.matchAt definition.arity.fixity (wordTokens (Text.words other))) ∧
      (after.LooksUpLike registry ↔ ∀ other ∈ kept, Text.words other = []) ∧
      ((∀ other ∈ kept, Text.words other = []) → registry.OwnsMatches →
        ∀ later, after.Continues later → later.OwnsMatches) := by
  obtain ⟨kept, spelling, rest, aliases, accepted, stops⟩ := exists_refused_of_register refused
  have leadsAfter : ∀ fixity, (after.table fixity).Leads := by
    have grown := (built.register definition).leads
    rw [refused] at grown
    exact grown
  have unchanged := looksUpLike_iff accepted built.leads leadsAfter
  refine ⟨kept, spelling, rest, aliases, by rw [register_kept accepted], register_refused accepted stops,
    definitions_of_refused refused, ?_, unchanged, ?_⟩
  · intro other member some_word same
    have known : (after.table definition.arity.fixity).find? (Text.words other) = some registry.definitions.length := by
      rw [find?_addAliases accepted, if_pos ⟨rfl, List.mem_map_of_mem member⟩]
    rw [← matchAt_wordTokens some_word, ← same, matchAt_wordTokens some_word,
      (alias_of_addAliases accepted other member).2] at known
    cases known
  · intro blank owns later continues
    exact continues.ownsMatches (owns.refused refused (unchanged.mpr blank))

def addition : OperatorDefinition := ⟨"add", ["+"], 30, .left, .binary, .binary "add"⟩

/-- An operator with an alias of `addition`, in front of or behind one of its own. -/
def clashing (aliases : List String) : OperatorDefinition := ⟨"sum", aliases, 30, .left, .binary, .binary "add"⟩

def multiplication : OperatorDefinition := ⟨"mul", ["*"], 40, .left, .binary, .binary "mul"⟩

/-- The registry with `addition` alone. -/
def additions : OperatorRegistry := (register {} addition).1

theorem accepts_additions : Accepts [addition] additions :=
  .register .nil (by decide +kernel)

theorem Accepts.ownsMatches {definitions : List OperatorDefinition} (accepts : Accepts definitions registry) :
    registry.OwnsMatches :=
  fun _ _ _ _ found => (accepts.matchAt_eq_some_iff.mp found).1

/-- An operator whose first alias is taken is refused without a trace. -/
theorem clash_at_front :
    ∃ after, additions.register (clashing ["+", "plus"]) = (after, some (.duplicateAlias "+" .binary "add")) ∧
      after.LooksUpLike additions ∧ ∀ later, after.Continues later → later.OwnsMatches := by
  have refused : additions.register (clashing ["+", "plus"]) =
      ((additions.register (clashing ["+", "plus"])).1, some (.duplicateAlias "+" .binary "add")) :=
    Prod.ext rfl (by decide +kernel)
  obtain ⟨kept, spelling, rest, aliases, accepted, -, -, -, unchanged, owners⟩ :=
    refused_keeps_front accepts_additions.built refused
  have nothing : kept = [] := by
    cases kept with
    | nil => rfl
    | cons first kept =>
        obtain ⟨rfl, behind⟩ := List.cons.inj aliases
        cases kept with
        | nil => revert accepted; decide +kernel
        | cons second kept =>
            obtain ⟨-, none_left⟩ := List.cons.inj behind
            simp at none_left
  subst nothing
  exact ⟨_, refused, unchanged.mpr nofun, owners nofun accepts_additions.ownsMatches⟩

/-- An operator whose second alias is taken leaves its first one behind, for the next operator. -/
theorem clash_behind :
    ∃ after later, additions.Built ∧
      additions.register (clashing ["plus", "+"]) = (after, some (.duplicateAlias "+" .binary "add")) ∧
      additions.matchBinary (wordTokens ["plus"]) = none ∧ after.matchBinary (wordTokens ["plus"]) = some (1, 1) ∧
      additions.binary.startsWith "plus" = false ∧ after.binary.startsWith "plus" = true ∧
      after.register multiplication = (later, none) ∧ later.matchBinary (wordTokens ["plus"]) = some (1, 1) ∧
      later.get? 1 = some multiplication ∧ "plus" ∉ multiplication.aliases ∧ ¬ later.OwnsMatches := by
  have stray : ((additions.register (clashing ["plus", "+"])).1.register multiplication).1.matchBinary
      (wordTokens ["plus"]) = some (1, 1) := by
    decide +kernel
  refine ⟨(additions.register (clashing ["plus", "+"])).1, _, accepts_additions.built, Prod.ext rfl ?_, ?_, ?_, ?_, ?_,
    Prod.ext rfl ?_, stray, ?_, ?_, fun owns => ?_⟩
  · decide +kernel
  · decide +kernel
  · decide +kernel
  · decide +kernel
  · decide +kernel
  · decide +kernel
  · decide +kernel
  · decide
  · obtain ⟨-, -, -, owner, numbered, -, spelled⟩ := owns .binary _ 1 1 stray
    have second : ((additions.register (clashing ["plus", "+"])).1.register multiplication).1.get? 1 =
        some multiplication := by
      decide +kernel
    obtain rfl := Option.some.inj (second.symm.trans numbered)
    revert spelled
    decide +kernel

end Templating.OperatorRegistry
