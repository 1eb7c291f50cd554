import Templating.Proofs.ItemCuts

/-! # Blocks that are not closed

A template that is cut while blocks are open is blamed on the innermost of them. The reading of the cut template follows
that of the whole one: each part is read in the same way unless the cut falls into it, and then the end is blamed on the
block that is open innermost at the cut. The induction is on the budget of the whole reading, for bodies and branches at
once.
-/

namespace Templating.Parse

variable {s : Setting} {r : Registries} {fallback : Option String} {last finish : Token} {content : List Token}
  {c d c' : Cursor} {items : List Item} {opened : List OpenBlock} {block : OpenBlock}
  {budget enough line id : Nat} {α : Type}

/-- The innermost of the open blocks is what is open innermost. -/
def Innermost (opened : List OpenBlock) (states : OpenStates) : Prop :=
  ∀ block ∈ opened.head?, ∃ kind, (kind != .text) = true ∧ states.head? = some ⟨kind, block.keyword, block.line⟩

/-- Bodies of cut templates are read like those of the whole ones, which are read with this budget. -/
def BodyFollows (s : Setting) (budget : Nat) : Prop :=
  ∀ last items opened c d found enough, Cut last (tokensOf items) c d → Innermost opened c.opened →
    body s budget c = .ok found → 8 * (tokensOf items).length + 12 ≤ enough →
    Follows s.fallbackTag last items opened opened true found (body s enough d)

/-- So are branches, which close their block. -/
def BranchesFollow (s : Setting) (budget : Nat) : Prop :=
  ∀ last items block opened definition hasLast c d found enough, ∀ words ∈ [ifWords, forWords, switchWords],
    Cut last (tokensOf items) c d → items ≠ [] → Innermost (block :: opened) c.opened →
    branches s budget definition words hasLast c = .ok found → 8 * (tokensOf items).length + 9 ≤ enough →
    Follows s.fallbackTag last items (block :: opened) opened false found
      (branches s enough definition words hasLast d)

section

variable {definition : TagDefinition} {words : BranchWords} {hasLast : Bool} {tree : Tree}

theorem innermost_openBlock (definition : TagDefinition) (isBlock : (definition.bodyState != .text) = true) :
    Innermost (⟨definition.keyword, line⟩ :: opened) (openBlock definition line c).opened := by
  rintro _ ⟨⟩
  exact ⟨definition.bodyState, isBlock, rfl⟩

theorem block_follows (bodies : ∀ smaller < budget, BodyFollows s smaller) (cut : Cut last (tokensOf items) c d)
    (innermost : Innermost opened c.opened) {found : Tree × Cursor} (reading : Parse.block s budget line c = .ok found)
    (sufficient : 8 * (tokensOf items).length + 13 ≤ enough) :
    Follows s.fallbackTag last items opened opened true found (Parse.block s enough line d) := by
  obtain ⟨enough, rfl⟩ : ∃ more, enough = more + 1 := ⟨enough - 1, by omega⟩
  cases budget with
  | zero =>
      rw [Parse.block] at reading
      cases reading
  | succ budget =>
      rw [Parse.block] at reading
      obtain ⟨taken, taking, ⟨⟩⟩ := bind_eq_ok.mp reading
      rw [Parse.block]
      exact (bodies budget (Nat.lt_succ_self _) last items opened c d taken enough cut innermost taking (by omega)).map
        fun children => Tree.block children line {}

theorem divided_follows (core : s.registries.tags.IsCore) (owns : s.registries.operators.OwnsAliases)
    (bodies : ∀ smaller < budget, BodyFollows s smaller) (rests : BranchesFollow s budget)
    (known : words ∈ [ifWords, forWords, switchWords]) (cut : Cut last (tokensOf items) c d)
    (innermost : Innermost (block :: opened) c.opened) {first : Tree × Cursor} {found : (List Tree × Bool) × Cursor}
    (blocking : Parse.block s budget line c = .ok first)
    (branching : branches s budget definition words hasLast first.2 = .ok found)
    (sufficient : 8 * (tokensOf items).length + 13 ≤ enough) (result : Tree → List Tree × Bool → α) :
    Follows s.fallbackTag last items (block :: opened) opened false (result first.1 found.1, found.2)
      (Parse.block s enough line d >>= fun first => branches s enough definition words hasLast first.2 >>= fun later =>
        .ok (result first.1 later.1, later.2)) := by
  refine (block_follows bodies cut innermost blocking sufficient).bind fun {rest d'} shorter stopped cut' => ?_
  have same := (balanced_of_closed core owns cut.closed).block budget line first.1 first.2 blocking
  have innermost : Innermost (block :: opened) first.2.opened := same ▸ innermost
  exact (rests last rest block opened definition hasLast first.2 d' found enough words known cut' (stopped rfl) innermost
    branching (by omega)).map (result first.1)

theorem length_tag (region : Delimited .tagStart .tagEnd) :
    (tokensOf (.tag region :: items)).length = region.inside.length + 2 + (tokensOf items).length := by
  rw [tokensOf_tag, List.length_cons, List.length_append, List.length_cons]
  omega

theorem branches_follow (core : s.registries.tags.IsCore) (owns : s.registries.operators.OwnsAliases)
    (bodies : ∀ smaller < budget, BodyFollows s smaller) (rests : ∀ smaller < budget, BranchesFollow s smaller) :
    BranchesFollow s budget := by
  intro last items block opened definition hasLast c d found enough words known cut some_item innermost reading
    sufficient
  have divides : ∀ words ∈ [ifWords, forWords, switchWords], ∀ keyword ∈ words.test.toList ++ [words.last],
      keyword ∉ blockKeywords ∧ keyword ∉ endingKeywords := by decide
  have ends : ∀ words ∈ [ifWords, forWords, switchWords],
      words.ending ∉ blockKeywords ∧ words.ending ∈ endingKeywords := by decide
  obtain ⟨enough, rfl⟩ : ∃ more, enough = more + 1 := ⟨enough - 1, by omega⟩
  cases budget with
  | zero =>
      rw [branches] at reading
      cases reading
  | succ budget =>
      have smaller : ∀ less < budget, BodyFollows s less := fun less below => bodies less (by omega)
      have rests : BranchesFollow s budget := rests budget (Nat.lt_succ_self _)
      rw [branches] at reading
      obtain ⟨⟨word, between⟩, keyword, rest⟩ := bind_eq_ok.mp reading
      obtain ⟨region, more, content, d', rfl, parts, unclosed, again, cut, same⟩ :=
        branchKeyword_short s.fallbackTag cut some_item keyword
      rw [length_tag] at sufficient
      have walk : openBlocks s.fallbackTag (block :: opened) [.tag region] = _ := pass_of_keyword parts
      have inside : Innermost (block :: opened) between.opened := same ▸ innermost
      rw [branches, again]
      dsimp only [ok_bind] at rest ⊢
      split at rest
      · rename_i isTest
        obtain ⟨⟨value, afterValue⟩, taking, rest⟩ := bind_eq_ok.mp rest
        obtain ⟨first, blocking, rest⟩ := bind_eq_ok.mp rest
        obtain ⟨later, branching, ⟨⟩⟩ := bind_eq_ok.mp rest
        obtain ⟨behind, valued, cut, same⟩ := expressionTag_short cut unclosed region.finish_kind taking
        obtain ⟨opensNone, endsNone⟩ := divides words known word.value (by simp [isTest.1])
        rw [if_neg opensNone, if_neg endsNone] at walk
        rw [if_pos isTest, valued]
        exact .behind [.tag region] walk (divided_follows core owns smaller rests known cut (same ▸ inside) blocking
          branching (by omega) fun content found => (value :: content :: found.1, found.2))
      rename_i notTest
      rw [if_neg notTest]
      split at rest
      · rename_i isLast
        obtain ⟨⟨finish, afterWord⟩, ending, rest⟩ := bind_eq_ok.mp rest
        obtain ⟨first, blocking, rest⟩ := bind_eq_ok.mp rest
        obtain ⟨later, branching, ⟨⟩⟩ := bind_eq_ok.mp rest
        obtain ⟨-, behind, ended, cut, same⟩ := tagEnd_short cut unclosed region.finish_kind ending
        obtain ⟨opensNone, endsNone⟩ := divides words known word.value (by simp [isLast.1])
        rw [if_neg opensNone, if_neg endsNone] at walk
        rw [if_pos isLast, ended]
        exact .behind [.tag region] walk (divided_follows core owns smaller rests known cut (same ▸ inside) blocking
          branching (by omega) fun content found => (content :: found.1, found.2))
      rename_i notLast
      rw [if_neg notLast]
      split at rest
      · rename_i isEnding
        obtain ⟨⟨finish, afterWord⟩, ending, rest⟩ := bind_eq_ok.mp rest
        obtain ⟨last, closing, ⟨⟩⟩ := bind_eq_ok.mp rest
        obtain ⟨-, behind, ended, cut, -⟩ := tagEnd_short cut unclosed region.finish_kind ending
        obtain ⟨final, closed, cut⟩ := cut.leave closing
        obtain ⟨opensNone, endsIt⟩ := ends words known
        rw [← isEnding, if_neg opensNone, if_pos endsIt] at walk
        rw [if_pos isEnding, ended]
        dsimp only [ok_bind]
        rw [closeBlock, closed]
        exact .behind [.tag region] walk (.ok cut (by simp))
      · cases rest

/-- What is open behind the first tag of a construct. -/
def behindHead (definition : TagDefinition) (line : Nat) (opened : List OpenBlock) : List OpenBlock :=
  match definition.ending with
  | none => opened
  | some _ => ⟨definition.keyword, line⟩ :: opened

theorem pass_of_parts {region : Delimited .tagStart .tagEnd} (core : definition ∈ Core.tags)
    (parts : tagParts fallback region.inside = (some definition.keyword, content)) :
    (Item.tag region).pass fallback opened = behindHead definition region.start.line opened := by
  have known : ∀ definition ∈ Core.tags,
      (definition.keyword ∈ blockKeywords ↔ definition.ending.isSome) ∧ definition.keyword ∉ endingKeywords := by decide
  obtain ⟨opens, endsNone⟩ := known definition core
  rw [pass_of_keyword parts, behindHead, if_neg endsNone]
  cases ending : definition.ending with
  | none => rw [if_neg (by simp [opens, ending])]
  | some _ => rw [if_pos (by simp [opens, ending])]

-- Behind its keyword a tag is read by its form.

section

variable {last : Token} {found : Tree × Cursor} (cut : Cut last (content ++ finish :: tokensOf items) c d)
  (unclosed : ∀ token ∈ content, token.kind ≠ .tagEnd) (isEnd : finish.kind = .tagEnd)

include cut unclosed isEnd

theorem statement_follows (form : definition.form = .print ∨ definition.form = .inclusion)
    (single : definition.grammar = [[.expression]])
    (reading : tagRest s (budget + 1) id definition line c = .ok found) :
    fitsGrammar definition d = true ∧
      Follows s.fallbackTag last items opened opened false found (tagRest s (enough + 1) id definition line d) := by
  have holds (budget : Nat) (c : Cursor) : tagRest s (budget + 1) id definition line c =
      expressionTag s.registries c >>= fun found => .ok (Tree.tag id [found.1] line {}, found.2) := by
    rcases form with form | form <;> (rw [tagRest, form]; rfl)
  rw [holds] at reading ⊢
  obtain ⟨⟨value, behind⟩, taking, ⟨⟩⟩ := bind_eq_ok.mp reading
  obtain ⟨d', valued, cut, -⟩ := expressionTag_short cut unclosed isEnd taking
  refine ⟨fitsGrammar_expression single valued, ?_⟩
  rw [valued]
  exact .ok cut (by simp)

theorem conditional_follows (core : s.registries.tags.IsCore) (owns : s.registries.operators.OwnsAliases)
    (bodies : ∀ smaller < budget, BodyFollows s smaller) (rests : BranchesFollow s budget)
    (reading : tagRest s (budget + 1) id Core.ifTag line c = .ok found)
    (sufficient : 8 * (tokensOf items).length + 13 ≤ enough) :
    fitsGrammar Core.ifTag d = true ∧
      Follows s.fallbackTag last items (⟨"if", line⟩ :: opened) opened false found
        (tagRest s (enough + 1) id Core.ifTag line d) := by
  rw [tagRest] at reading
  obtain ⟨⟨condition, behind⟩, taking, rest⟩ := bind_eq_ok.mp reading
  obtain ⟨first, blocking, rest⟩ := bind_eq_ok.mp rest
  obtain ⟨later, branching, ⟨⟩⟩ := bind_eq_ok.mp rest
  obtain ⟨d', valued, cut, -⟩ := expressionTag_short cut unclosed isEnd taking
  refine ⟨fitsGrammar_expression rfl valued, ?_⟩
  rw [tagRest, show Core.ifTag.form = .conditional from rfl]
  dsimp only
  rw [valued]
  exact divided_follows core owns bodies rests (by simp) (cut.enter _ _ _) (innermost_openBlock Core.ifTag rfl) blocking
    branching sufficient fun first found =>
      Tree.tag id (condition :: first :: found.1) line (Annotations.set {} "has_else" (.bool found.2))

theorem loop_follows (core : s.registries.tags.IsCore) (owns : s.registries.operators.OwnsAliases)
    (bodies : ∀ smaller < budget, BodyFollows s smaller) (rests : BranchesFollow s budget)
    (fits : fitsGrammar Core.forTag c = true)
    (reading : tagRest s (budget + 1) id Core.forTag line c = .ok found)
    (sufficient : 8 * (tokensOf items).length + 13 ≤ enough) :
    fitsGrammar Core.forTag d = true ∧
      Follows s.fallbackTag last items (⟨"for", line⟩ :: opened) opened false found
        (tagRest s (enough + 1) id Core.forTag line d) := by
  rw [tagRest] at reading
  obtain ⟨⟨targets, behind⟩, taking, rest⟩ := bind_eq_ok.mp reading
  obtain ⟨first, blocking, rest⟩ := bind_eq_ok.mp rest
  obtain ⟨later, branching, ⟨⟩⟩ := bind_eq_ok.mp rest
  obtain ⟨fits, d', headed, cut, -⟩ := loopHeader_short cut unclosed isEnd fits taking
  refine ⟨fits, ?_⟩
  rw [tagRest, show Core.forTag.form = .loop from rfl]
  dsimp only
  rw [headed]
  exact divided_follows core owns bodies rests (by simp) (cut.enter _ _ _) (innermost_openBlock Core.forTag rfl) blocking
    branching sufficient fun first found => Tree.tag id (targets.2 :: first :: found.1) line (targets.1.notes found.2)

theorem switch_follows (rests : BranchesFollow s budget)
    (reading : tagRest s (budget + 1) id Core.switchTag line c = .ok found)
    (sufficient : 8 * (tokensOf items).length + 13 ≤ enough) :
    fitsGrammar Core.switchTag d = true ∧
      Follows s.fallbackTag last items (⟨"switch", line⟩ :: opened) opened false found
        (tagRest s (enough + 1) id Core.switchTag line d) := by
  rw [tagRest] at reading
  obtain ⟨⟨subject, behind⟩, taking, rest⟩ := bind_eq_ok.mp reading
  obtain ⟨afterBlanks, skipping, rest⟩ := bind_eq_ok.mp rest
  obtain ⟨later, branching, ⟨⟩⟩ := bind_eq_ok.mp rest
  obtain ⟨d', valued, cut, -⟩ := expressionTag_short cut unclosed isEnd taking
  refine ⟨fitsGrammar_expression rfl valued, ?_⟩
  rw [tagRest, show Core.switchTag.form = .switch from rfl]
  dsimp only
  rw [valued]
  refine firstBranch_follows (cut.enter _ _ _) skipping fun {more d'} shorter some_item cut same => ?_
  have innermost : Innermost (⟨"switch", line⟩ :: opened) afterBlanks.opened :=
    same ▸ innermost_openBlock Core.switchTag rfl
  exact (rests last more ⟨"switch", line⟩ opened Core.switchTag false afterBlanks d' later enough switchWords (by simp)
    cut some_item innermost branching (by omega)).map
      fun found => Tree.tag id (subject :: found.1) line (Annotations.set {} "has_default" (.bool found.2))

theorem nested_follows (core : s.registries.tags.IsCore) (owns : s.registries.operators.OwnsAliases)
    (bodies : ∀ smaller < budget, BodyFollows s smaller) (fits : fitsGrammar Core.templateTag c = true)
    (reading : tagRest s (budget + 1) id Core.templateTag line c = .ok found)
    (sufficient : 8 * (tokensOf items).length + 13 ≤ enough) :
    fitsGrammar Core.templateTag d = true ∧
      Follows s.fallbackTag last items (⟨"template", line⟩ :: opened) opened false found
        (tagRest s (enough + 1) id Core.templateTag line d) := by
  have same_name := cut.same_current
  rw [tagRest] at reading
  obtain ⟨⟨finish, afterHead⟩, ending, rest⟩ := bind_eq_ok.mp reading
  obtain ⟨⟨content, afterBody⟩, blocking, rest⟩ := bind_eq_ok.mp rest
  obtain ⟨⟨closer, afterCloser⟩, keyword, rest⟩ := bind_eq_ok.mp rest
  obtain ⟨⟨close, afterEnd⟩, finishing, rest⟩ := bind_eq_ok.mp rest
  obtain ⟨behind, closing, ⟨⟩⟩ := bind_eq_ok.mp rest
  obtain ⟨fits, d', headed, cut, -⟩ := nestedHead_short cut unclosed isEnd fits ending
  obtain ⟨body, next, rfl, overBody, -, stops⟩ :=
    block_outlined (fun smaller _ => (readings_outlined core owns smaller).1) cut.closed blocking
  have isClosing : closer.value = "endtemplate" :=
    stops.closer (template_owns core) (cut.closed.behind overBody) keyword
  refine ⟨fits, ?_⟩
  rw [tagRest, show Core.templateTag.form = .nested from rfl]
  dsimp only
  rw [headed, same_name]
  refine (block_follows bodies (cut.enter _ _ _) (innermost_openBlock Core.templateTag rfl) blocking
    sufficient).bind fun {more d'} shorter stopped inside => ?_
  obtain ⟨region, final, inner, d'', rfl, parts, unclosed, again, rest, -⟩ :=
    branchKeyword_short s.fallbackTag inside (stopped rfl) keyword
  obtain ⟨-, last', ended, rest, -⟩ := tagEnd_short rest unclosed region.finish_kind finishing
  obtain ⟨final', closed, rest⟩ := rest.leave closing
  have walk : openBlocks s.fallbackTag (⟨"template", line⟩ :: opened) [.tag region] = opened := by
    refine (pass_of_keyword parts).trans ?_
    rw [isClosing]
    rfl
  dsimp only
  rw [again]
  dsimp only [ok_bind]
  rw [ended]
  dsimp only [ok_bind]
  rw [closeBlock, closed]
  exact .behind [.tag region] walk (.ok rest (by simp))

end

theorem tagRest_follows (core : s.registries.tags.IsCore) (owns : s.registries.operators.OwnsAliases)
    (bodies : ∀ smaller < budget, BodyFollows s smaller) (rests : BranchesFollow s budget)
    (numbered : s.registries.tags.get? id = some definition) (fits : fitsGrammar definition c = true)
    (cut : Cut last (content ++ finish :: tokensOf items) c d) (unclosed : ∀ token ∈ content, token.kind ≠ .tagEnd)
    (isEnd : finish.kind = .tagEnd) {found : Tree × Cursor}
    (reading : tagRest s (budget + 1) id definition line c = .ok found)
    (sufficient : 8 * (tokensOf items).length + 14 ≤ enough) :
    fitsGrammar definition d = true ∧
      Follows s.fallbackTag last items (behindHead definition line opened) opened false found
        (tagRest s enough id definition line d) := by
  have isCore := coreTag?_of_get? core numbered
  obtain ⟨enough, rfl⟩ : ∃ more, enough = more + 1 := ⟨enough - 1, by omega⟩
  have sufficient : 8 * (tokensOf items).length + 13 ≤ enough := by omega
  cases form : definition.form with
  | print =>
      rw [form] at isCore
      obtain rfl := Option.some.inj isCore
      exact statement_follows cut unclosed isEnd (.inl rfl) rfl reading
  | inclusion =>
      rw [form] at isCore
      obtain rfl := Option.some.inj isCore
      exact statement_follows cut unclosed isEnd (.inr rfl) rfl reading
  | assignment =>
      rw [form] at isCore
      obtain rfl := Option.some.inj isCore
      obtain ⟨fits, d', again, cut⟩ := assignment_short enough cut unclosed isEnd fits reading
      exact ⟨fits, again ▸ .ok cut (by simp)⟩
  | conditional =>
      rw [form] at isCore
      obtain rfl := Option.some.inj isCore
      exact conditional_follows cut unclosed isEnd core owns bodies rests reading sufficient
  | loop =>
      rw [form] at isCore
      obtain rfl := Option.some.inj isCore
      exact loop_follows cut unclosed isEnd core owns bodies rests fits reading sufficient
  | switch =>
      rw [form] at isCore
      obtain rfl := Option.some.inj isCore
      exact switch_follows cut unclosed isEnd rests reading sufficient
  | nested =>
      rw [form] at isCore
      obtain rfl := Option.some.inj isCore
      exact nested_follows cut unclosed isEnd core owns bodies fits reading sufficient
  | custom takesExpression =>
      rw [form] at isCore
      cases isCore

theorem tag_follows (opened : List OpenBlock) (core : s.registries.tags.IsCore)
    (owns : s.registries.operators.OwnsAliases) (bodies : ∀ smaller < budget, BodyFollows s smaller)
    (rests : ∀ smaller < budget, BranchesFollow s smaller)
    {region : Delimited .tagStart .tagEnd} (cut : Cut last (tokensOf (.tag region :: items)) c d) {found : Tree × Cursor}
    (reading : tag s budget c = .ok found) (sufficient : 8 * (tokensOf (.tag region :: items)).length + 11 ≤ enough) :
    Follows s.fallbackTag last items ((Item.tag region).pass s.fallbackTag opened) opened false found
      (tag s enough d) := by
  obtain ⟨enough, rfl⟩ : ∃ more, enough = more + 1 := ⟨enough - 1, by omega⟩
  cases budget with
  | zero =>
      rw [tag] at reading
      cases reading
  | succ budget =>
      rw [length_tag] at sufficient
      rw [tokensOf_tag] at cut
      rw [tag] at reading
      obtain ⟨⟨start, afterStart⟩, opening, rest⟩ := bind_eq_ok.mp reading
      obtain ⟨⟨id, behind⟩, resolving, rest⟩ := bind_eq_ok.mp rest
      obtain ⟨isStart, along⟩ := (expect_iff cut.closed (by decide)).mp opening
      have here : start = region.start := (along.uncons.1.symm.trans cut.current.1)
      subst here
      have cut : Cut last ([region.start] ++ (region.inside ++ region.finish :: tokensOf items)) c d := cut
      obtain ⟨d', short, inside⟩ := cut.passes along
      have started := (expect_iff cut.closed_short (by decide)).mpr ⟨isStart, short⟩
      obtain ⟨keyword, content, behind', found, parts, unclosed, shorter, resolved, cut⟩ :=
        resolveTag_short inside region.unclosed region.finish_kind resolving
      obtain ⟨definition, numbered, rfl⟩ := TagRegistry.get?_of_lookup? found
      dsimp only at rest
      rw [numbered] at rest
      dsimp only at rest
      split at rest
      · rename_i fits
        cases budget with
        | zero =>
            rw [tagRest] at rest
            cases rest
        | succ budget =>
            have sufficient : 8 * (tokensOf items).length + 14 ≤ enough := by omega
            obtain ⟨fits, follows⟩ := tagRest_follows core owns (fun smaller below => bodies smaller (by omega))
              (rests budget (by omega)) numbered fits cut unclosed region.finish_kind rest sufficient
            rw [tag, started]
            dsimp only [ok_bind]
            rw [resolved]
            dsimp only [ok_bind]
            rw [numbered]
            dsimp only
            rw [if_pos fits, pass_of_parts (core definition (List.mem_of_getElem? numbered)) parts]
            exact follows
      · cases rest

theorem output_short {region : Delimited .expressionStart .expressionEnd}
    (cut : Cut last (tokensOf (.output region :: items)) c d) (reading : output s c = .ok (tree, c')) :
    ∃ d', output s d = .ok (tree, d') ∧ Cut last (tokensOf items) c' d' ∧ c'.opened = c.opened := by
  obtain ⟨isStart, starts⟩ := cut.current_kind
  dsimp only [Item.opening] at isStart starts
  rw [tokensOf_output] at cut
  obtain ⟨here, there⟩ := cut.current
  obtain ⟨id, known, -⟩ := bind_eq_ok.mp reading
  obtain ⟨tokens, finish, value, whole, isEnd, along, rfl⟩ := (output_iff known cut.closed isStart).mp reading
  have front := cut.closed_short.next (by rw [starts]; decide)
  obtain ⟨d', short, rest, -, -⟩ := (cut.next (by rw [region.start_kind]; decide)).upTo region.finish_kind
    region.unclosed (by decide) whole.kinds isEnd along.uncons.2
  rw [here, ← there] at known ⊢
  refine ⟨d', ?_, rest, along.opened⟩
  exact (output_iff known cut.closed_short starts).mpr ⟨tokens, finish, value, whole, isEnd, front.trans short, rfl⟩

theorem body_atEnd (cut : Cut last [] c d) (innermost : Innermost (block :: opened) c.opened) :
    body s (enough + 1) d = .error ⟨.unterminated block.keyword block.line, last.line⟩ := by
  obtain ⟨kind, isBlock, top⟩ := innermost block rfl
  have atEnd : d.current = last := Cursor.current_eq cut.short
  rw [body, atEnd, cut.isEnd, cut.opened, top]
  simp [Option.filter, isBlock]

theorem body_follows (core : s.registries.tags.IsCore) (owns : s.registries.operators.OwnsAliases)
    (bodies : ∀ smaller < budget, BodyFollows s smaller) (rests : ∀ smaller < budget, BranchesFollow s smaller) :
    BodyFollows s budget := by
  intro last items opened c d found enough cut innermost reading sufficient
  obtain ⟨enough, rfl⟩ : ∃ more, enough = more + 1 := ⟨enough - 1, by omega⟩
  cases items with
  | nil =>
      refine .broken fun block outer open_ => ?_
      obtain rfl : opened = block :: outer := open_
      exact body_atEnd cut innermost
  | cons item items =>
      cases budget with
      | zero =>
          rw [body] at reading
          cases reading
      | succ budget =>
          -- Behind the first item the body goes on with the same blocks open.
          have onward {rest : List Item} {node : Tree} {between d' : Cursor} {later : List Tree × Cursor}
              (shorter : (tokensOf rest).length < (tokensOf (item :: items)).length)
              (cut : Cut last (tokensOf rest) between d') (same : between.opened = c.opened)
              (following : body s budget between = .ok later) :
              Follows s.fallbackTag last rest opened opened true (node :: later.1, later.2)
                (body s enough d' >>= fun found => .ok (node :: found.1, found.2)) :=
            (bodies budget (Nat.lt_succ_self _) last rest opened between d' later enough cut (same ▸ innermost) following
              (by omega)).map (node :: ·)
          rw [body, cut.current_kind.1] at reading
          rw [body, cut.current_kind.2]
          cases item with
          | text token isText =>
              dsimp only [Item.opening] at reading ⊢
              rw [tokensOf_text] at cut
              obtain ⟨here, there⟩ := cut.current
              rw [here] at reading
              rw [there]
              obtain ⟨node, printing, rest⟩ := bind_eq_ok.mp reading
              obtain ⟨later, following, ⟨⟩⟩ := bind_eq_ok.mp rest
              rw [printing]
              exact .behind [.text token isText] rfl
                (onward (by simp [tokensOf_text]) (cut.next (by rw [isText]; decide)) rfl following)
          | output region =>
              dsimp only [Item.opening] at reading ⊢
              obtain ⟨⟨node, between⟩, writing, rest⟩ := bind_eq_ok.mp reading
              obtain ⟨later, following, ⟨⟩⟩ := bind_eq_ok.mp rest
              obtain ⟨d', again, cut, same⟩ := output_short cut writing
              rw [again]
              exact .behind [.output region] rfl (onward (by simp [tokensOf_output]; omega) cut same following)
          | tag region =>
              dsimp only [Item.opening] at reading ⊢
              rw [same_second cut]
              split at reading
              · rename_i isBlockKeyword
                rw [if_pos isBlockKeyword]
                split at reading
                · rename_i owned
                  cases reading
                  rw [Setting.topOwns, ← cut.opened, ← Setting.topOwns] at owned
                  rw [if_pos owned]
                  exact .ok cut fun _ => List.cons_ne_nil _ _
                · cases reading
              · rename_i notBlockKeyword
                rw [if_neg notBlockKeyword]
                obtain ⟨⟨node, between⟩, tagging, rest⟩ := bind_eq_ok.mp reading
                obtain ⟨later, following, ⟨⟩⟩ := bind_eq_ok.mp rest
                have same := (balanced_of_closed core owns cut.closed).tag budget node between tagging
                have length : (tokensOf (.tag region :: items)).length = _ := length_tag region
                have room : 8 * (tokensOf (.tag region :: items)).length + 11 ≤ enough := by omega
                have tagged := tag_follows opened core owns (fun less below => bodies less (by omega))
                  (fun less below => rests less (by omega)) cut tagging room
                exact .behind [.tag region] rfl
                  (tagged.bind fun shorter _ cut => onward (by omega) cut same following)

theorem readings_follow (core : s.registries.tags.IsCore) (owns : s.registries.operators.OwnsAliases) (budget : Nat) :
    BodyFollows s budget ∧ BranchesFollow s budget := by
  induction budget using Nat.strong_induction_on with
  | _ budget ih =>
      have bodies : ∀ smaller < budget, BodyFollows s smaller := fun smaller below => (ih smaller below).1
      have rests : ∀ smaller < budget, BranchesFollow s smaller := fun smaller below => (ih smaller below).2
      exact ⟨body_follows core owns bodies rests, branches_follow core owns bodies rests⟩

end

theorem inside_of_item (cut : Cut last (tokensOf items) c d) (some_item : items ≠ []) : c.current.kind ≠ .eof := by
  obtain ⟨item, items, rfl⟩ := List.exists_cons_of_ne_nil some_item
  rw [cut.current_kind.1]
  cases item <;> exact nofun

/-- A template that is cut while blocks are open is blamed on the innermost of them: where a template is read, what
stands in front of a place between two of its items is no template if a block is open there. The error names the keyword
of the block, the line on which its tag starts, and the line of the end. This holds for all registries of core tags,
whatever their operators and functions, and whichever tag stands in for others. -/
theorem cut_blames_innermost {extensions : List Extension} (built : Registries.build extensions = .ok r)
    (core : ∀ extension ∈ extensions, ∀ tag ∈ extension.tags, tag ∈ Core.tags) (fallback : Option String)
    {items : List Item} {later : List Token} {tree : Tree}
    (reading : template ⟨r, fallback⟩ (tokensOf items ++ later) = .ok tree) {innermost : OpenBlock}
    {outer : List OpenBlock} (open_ : openBlocks fallback [] items = innermost :: outer) {last : Token}
    (isEnd : last.kind = .eof) :
    ∃ e, template ⟨r, fallback⟩ (tokensOf items ++ [last]) = .error e ∧ e.line = last.line ∧
      e.cause = .unterminated innermost.keyword innermost.line ∧ e.code.number = "E1003" ∧
      e.toDiagnostic.message = "unterminated `" ++ innermost.keyword ++ "` opened on line " ++ toString innermost.line ∧
      e.toDiagnostic.labels = [⟨last.line, "template ends here", true⟩,
        ⟨innermost.line, "`" ++ innermost.keyword ++ "` opened here", false⟩] := by
  refine ⟨⟨.unterminated innermost.keyword innermost.line, last.line⟩, ?_, rfl, rfl, rfl, rfl, rfl⟩
  let whole : Cursor := { stream := .ofTokens (tokensOf items ++ later) }
  let short : Cursor := { stream := .ofTokens (tokensOf items ++ [last]) }
  have tokens : short.tokens = tokensOf items ++ [last] := tokens_ofTokens isEnd
  have cut : Cut last (tokensOf items) whole short :=
    ⟨isEnd, closed_stream _, (List.prefix_append _ _).trans (prefix_stream _), tokens, rfl⟩
  have enough : 8 * (tokensOf items).length + 12 ≤ short.budget := by
    have counted := congrArg List.length tokens
    rw [← short.later_length, List.length_append, List.length_singleton] at counted
    rw [Cursor.budget]
    omega
  obtain ⟨⟨trees, behind⟩, taking, -⟩ := bind_eq_ok.mp reading
  have isCore := TagRegistry.isCore_of_tags built core
  have owns := Registries.ownsAliases_operators built
  have follows := (readings_follow (s := ⟨r, fallback⟩) isCore owns whole.budget).1 last items [] _ _ (trees, behind)
    short.budget (cut.enter .text "template" 1) (by simp [Innermost]) taking enough
  show body ⟨r, fallback⟩ short.budget (short.enter .text "template" 1) >>= _ = _
  cases follows with
  | through done parts stopped walk between same =>
      -- Outside all blocks nothing but the end of the whole template stops the reading.
      obtain ⟨used, entered, -, ended⟩ := (readings_outlined isCore owns whole.budget).1 _ trees behind
        ((closed_stream _).enter .text "template" 1) taking
      obtain ⟨inner, rfl, -⟩ := entered.of_enter
      exact (inside_of_item between (stopped rfl) (ended_outside.mp ended)).elim
  | broken blames => rw [blames innermost outer open_, error_bind]

-- A loop with a condition in it; the cut comes in front of the first branch of the choice in its second branch, and a
-- nested template in the first branch has ended.

def tagAt (line : Nat) (inside : List Token) (unclosed : ∀ token ∈ inside, token.kind ≠ .tagEnd) : Item :=
  .tag ⟨⟨.tagStart, "\x7b%", line⟩, inside, ⟨.tagEnd, "%\x7d", line⟩, rfl, unclosed, rfl⟩

def cutItems : List Item :=
  [tagAt 1 [⟨.keyword, "for", 1⟩, ⟨.identifier, "x", 1⟩, ⟨.operator, "in", 1⟩, ⟨.identifier, "xs", 1⟩] (by decide),
    tagAt 2 [⟨.keyword, "if", 2⟩, ⟨.identifier, "x", 2⟩] (by decide),
    tagAt 3 [⟨.keyword, "template", 3⟩, ⟨.identifier, "card", 3⟩] (by decide),
    .text ⟨.text, "a", 3⟩ rfl,
    tagAt 3 [⟨.keyword, "endtemplate", 3⟩] (by decide),
    tagAt 4 [⟨.keyword, "else", 4⟩] (by decide),
    tagAt 5 [⟨.keyword, "switch", 5⟩, ⟨.identifier, "x", 5⟩] (by decide),
    .text ⟨.text, " ", 5⟩ rfl]

def laterItems : List Item :=
  [tagAt 6 [⟨.keyword, "case", 6⟩, ⟨.literal, "7", 6⟩] (by decide),
    .text ⟨.text, "b", 6⟩ rfl,
    tagAt 7 [⟨.keyword, "endswitch", 7⟩] (by decide),
    tagAt 8 [⟨.keyword, "endif", 8⟩] (by decide),
    tagAt 9 [⟨.keyword, "endfor", 9⟩] (by decide)]

theorem cutItems_blame_switch :
    ∃ r tree, Registries.build [Core.extension] = .ok r ∧
      template ⟨r, none⟩ (tokensOf cutItems ++ tokensOf laterItems) = .ok tree ∧
      openBlocks none [] cutItems = [⟨"switch", 5⟩, ⟨"if", 2⟩, ⟨"for", 1⟩] ∧
      ∃ e, template ⟨r, none⟩ (tokensOf cutItems ++ [.eof 6]) = .error e ∧ e.line = 6 ∧
        e.cause = .unterminated "switch" 5 ∧ e.code.number = "E1003" ∧
        e.toDiagnostic.message = "unterminated `switch` opened on line 5" ∧
        e.toDiagnostic.labels = [⟨6, "template ends here", true⟩, ⟨5, "`switch` opened here", false⟩] := by
  have outcome : (do
      let r ← (Registries.build [Core.extension]).toOption
      let _ ← (template ⟨r, none⟩ (tokensOf cutItems ++ tokensOf laterItems)).toOption
      return r.tags.tags.length) = some 7 := by
    rw [Registries.build_core]
    decide +kernel
  obtain ⟨r, built, outcome⟩ := Option.bind_eq_some_iff.mp outcome
  obtain ⟨tree, reading, -⟩ := Option.bind_eq_some_iff.mp outcome
  rw [toOption_eq_some] at built reading
  have open_ : openBlocks none [] cutItems = [⟨"switch", 5⟩, ⟨"if", 2⟩, ⟨"for", 1⟩] := by decide
  exact ⟨r, tree, built, reading, open_,
    cut_blames_innermost built (by simp [Core.extension]) none reading open_ rfl⟩

end Templating.Parse
