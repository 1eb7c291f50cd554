import Templating.Proofs.BalancedReading

/-! # Cutting a template between its items

A template is a row of items: texts, outputs and tags. Which blocks are open between two of them is read off their
tokens, with a stack. A reading of the template that is cut there is compared with the reading of the whole one: both
are in front of the same tokens, up to the cut. The lemmas say of each reader of a part that it comes to the same result
in the cut template, unless the cut comes first.
-/

namespace Templating.Parse

open Source (innerKinds)

/-- The tokens from an opener to the first closer behind it. -/
structure Delimited (opening closing : TokenKind) where
  start : Token
  inside : List Token
  finish : Token
  start_kind : start.kind = opening
  unclosed : ∀ token ∈ inside, token.kind ≠ closing
  finish_kind : finish.kind = closing

/-- The tokens of a text, an output or a tag. -/
inductive Item where
  | text (token : Token) (isText : token.kind = .text)
  | output (region : Delimited .expressionStart .expressionEnd)
  | tag (region : Delimited .tagStart .tagEnd)

def Delimited.tokens {opening closing : TokenKind} (region : Delimited opening closing) : List Token :=
  region.start :: region.inside ++ [region.finish]

def Item.tokens : Item → List Token
  | .text token _ => [token]
  | .output region => region.tokens
  | .tag region => region.tokens

/-- The kind of the first token of an item. -/
def Item.opening : Item → TokenKind
  | .text _ _ => .text
  | .output _ => .expressionStart
  | .tag _ => .tagStart

theorem Item.tokens_cons (item : Item) : ∃ first rest, item.tokens = first :: rest ∧ first.kind = item.opening := by
  cases item with
  | text token isText => exact ⟨token, [], rfl, isText⟩
  | output region => exact ⟨region.start, _, rfl, region.start_kind⟩
  | tag region => exact ⟨region.start, _, rfl, region.start_kind⟩

def tokensOf (items : List Item) : List Token :=
  items.flatMap Item.tokens

/-- An open block: the keyword of its tag, and the line on which the tag starts. -/
structure OpenBlock where
  keyword : String
  line : Nat
deriving Repr, DecidableEq

/-- The keywords of the core tags with a body. -/
def blockKeywords : List String :=
  (Core.tags.filter fun tag => tag.ending.isSome).map TagDefinition.keyword

/-- The keywords that end those bodies. -/
def endingKeywords : List String :=
  Core.tags.filterMap TagDefinition.ending

/-- What is open behind an item, the innermost block first. A tag without a keyword is the one that stands in for it. -/
def Item.pass (fallback : Option String) (opened : List OpenBlock) : Item → List OpenBlock
  | .text _ _ => opened
  | .output _ => opened
  | .tag region =>
    match (tagParts fallback region.inside).1 with
    | none => opened
    | some keyword =>
      if keyword ∈ blockKeywords then ⟨keyword, region.start.line⟩ :: opened
      else if keyword ∈ endingKeywords then opened.tail
      else opened

/-- What is open behind items, where some blocks were open in front of them. -/
def openBlocks (fallback : Option String) (opened : List OpenBlock) (items : List Item) : List OpenBlock :=
  items.foldl (Item.pass fallback) opened

variable {s : Setting} {r : Registries} {fallback : Option String} {last token finish : Token}
  {front content : List Token} {c d c' : Cursor} {item : Item} {items : List Item} {opened : List OpenBlock}
  {budget enough line id : Nat} {α β : Type}

theorem tokensOf_cons : tokensOf (item :: items) = item.tokens ++ tokensOf items :=
  rfl

theorem tokensOf_append (done : List Item) : tokensOf (done ++ items) = tokensOf done ++ tokensOf items :=
  List.flatMap_append

theorem tokensOf_text (isText : token.kind = .text) : tokensOf (.text token isText :: items) = token :: tokensOf items :=
  rfl

theorem tokensOf_output (region : Delimited .expressionStart .expressionEnd) :
    tokensOf (.output region :: items) = region.start :: (region.inside ++ region.finish :: tokensOf items) := by
  simp [tokensOf, Item.tokens, Delimited.tokens]

theorem tokensOf_tag (region : Delimited .tagStart .tagEnd) :
    tokensOf (.tag region :: items) = region.start :: (region.inside ++ region.finish :: tokensOf items) := by
  simp [tokensOf, Item.tokens, Delimited.tokens]

theorem openBlocks_append (done : List Item) :
    openBlocks fallback opened (done ++ items) = openBlocks fallback (openBlocks fallback opened done) items :=
  List.foldl_append

theorem pass_of_keyword {region : Delimited .tagStart .tagEnd} {keyword : String}
    (parts : tagParts fallback region.inside = (some keyword, content)) :
    (Item.tag region).pass fallback opened =
      if keyword ∈ blockKeywords then ⟨keyword, region.start.line⟩ :: opened
      else if keyword ∈ endingKeywords then opened.tail
      else opened := by
  simp only [Item.pass, parts]

/-- A place in a template and the same place in the template that is cut behind some more tokens. -/
structure Cut (last : Token) (front : List Token) (c d : Cursor) : Prop where
  isEnd : last.kind = .eof
  closed : c.Closed
  whole : front <+: c.tokens
  short : d.tokens = front ++ [last]
  opened : d.opened = c.opened

namespace Cut

variable {used inner : List Token} {following : Token}

theorem closed_short (cut : Cut last front c d) : d.Closed := by
  intro final member
  rw [cut.short, List.getLast?_concat] at member
  cases member
  exact cut.isEnd

theorem passes (cut : Cut last (used ++ front) c d) (along : c.Passes used c') :
    ∃ d', d.Passes used d' ∧ Cut last front c' d' := by
  have tokens : d.tokens = used ++ (front ++ [last]) := by rw [cut.short, List.append_assoc]
  have some_token : front ++ [last] ≠ [] := List.append_ne_nil_of_right_ne_nil _ (List.cons_ne_nil _ _)
  have whole := cut.whole
  rw [along.tokens] at whole
  refine ⟨_, .of_tokens tokens some_token, cut.isEnd, cut.closed.behind along,
    (List.prefix_append_right_inj used).mp whole, Cursor.tokens_skip tokens some_token, ?_⟩
  rw [Cursor.opened_skip, cut.opened, along.opened]

theorem enter (cut : Cut last front c d) (kind : StateKind) (label : String) (line : Nat) :
    Cut last front (c.enter kind label line) (d.enter kind label line) :=
  ⟨cut.isEnd, cut.closed.enter _ _ _, cut.whole, cut.short, congrArg (_ :: ·) cut.opened⟩

/-- What is closed in the whole is closed in the cut template too. -/
theorem leave (cut : Cut last front c d) {kind : StateKind} {label : String}
    (leaving : c.leave kind label line = .ok c') : ∃ d', d.leave kind label line = .ok d' ∧ Cut last front c' d' := by
  rw [Cursor.leave] at leaving
  rw [Cursor.leave, cut.opened]
  split at leaving
  · cases leaving
    exact ⟨_, rfl, cut.isEnd, cut.closed, cut.whole, cut.short, rfl⟩
  · cases leaving

theorem current (cut : Cut last (token :: front) c d) : c.current = token ∧ d.current = token := by
  obtain ⟨later, tokens⟩ := cut.whole
  exact ⟨Cursor.current_eq tokens.symm, Cursor.current_eq cut.short⟩

theorem second (cut : Cut last (token :: following :: front) c d) :
    c.stream.ahead 1 = following ∧ d.stream.ahead 1 = following := by
  obtain ⟨later, tokens⟩ := cut.whole
  exact ⟨Cursor.ahead_one tokens.symm, Cursor.ahead_one cut.short⟩

theorem same_current (cut : Cut last (content ++ finish :: front) c d) : d.current = c.current := by
  cases content with
  | nil => exact cut.current.2.trans cut.current.1.symm
  | cons token content => exact cut.current.2.trans cut.current.1.symm

theorem current_kind (cut : Cut last (tokensOf (item :: items)) c d) :
    c.current.kind = item.opening ∧ d.current.kind = item.opening := by
  obtain ⟨first, rest, shape, kind⟩ := item.tokens_cons
  rw [tokensOf_cons, shape] at cut
  have cut : Cut last (first :: (rest ++ tokensOf items)) c d := cut
  rw [cut.current.1, cut.current.2]
  exact ⟨kind, kind⟩

theorem next (cut : Cut last (token :: front) c d) (inside : token.kind ≠ .eof) : Cut last front c.next d.next := by
  have along := cut.closed.next (c := c) (cut.current.1 ▸ inside)
  rw [cut.current.1] at along
  have cut : Cut last ([token] ++ front) c d := cut
  obtain ⟨d', passes, rest⟩ := cut.passes along
  rwa [passes.skip] at rest

/-- Tokens between delimiters that lead to a closer are those up to the first closer. -/
theorem aligned {rest : List Token} {close : Token} {closing : TokenKind}
    (same : inner ++ close :: rest = content ++ finish :: front) (isEnd : finish.kind = closing)
    (unclosed : ∀ token ∈ content, token.kind ≠ closing) (outside : closing ∉ innerKinds)
    (kinds : ∀ token ∈ inner, token.kind ∈ innerKinds) (closes : close.kind = closing) :
    inner = content ∧ close = finish := by
  rcases append_cons_cases same with ⟨gap, rfl, -⟩ | ⟨rfl, rfl, -⟩ | ⟨gap, rfl, -⟩
  · exact absurd closes (unclosed close (by simp))
  · exact ⟨rfl, rfl⟩
  · exact absurd (isEnd ▸ kinds finish (by simp)) outside

theorem upTo {close : Token} {closing : TokenKind} (cut : Cut last (content ++ finish :: front) c d)
    (isEnd : finish.kind = closing) (unclosed : ∀ token ∈ content, token.kind ≠ closing) (outside : closing ∉ innerKinds)
    (kinds : ∀ token ∈ inner, token.kind ∈ innerKinds) (closes : close.kind = closing)
    (along : c.Passes (inner ++ [close]) c') :
    ∃ d', d.Passes (inner ++ [close]) d' ∧ Cut last front c' d' ∧ inner = content ∧ close = finish := by
  obtain ⟨later, whole⟩ := cut.whole
  have tokens : inner ++ close :: c'.tokens = content ++ finish :: (front ++ later) := by
    have both := along.tokens
    rw [← whole] at both
    simpa using both.symm
  obtain ⟨rfl, rfl⟩ := aligned tokens isEnd unclosed outside kinds closes
  have cut : Cut last ((inner ++ [close]) ++ front) c d := by simpa using cut
  obtain ⟨d', passes, rest⟩ := cut.passes along
  exact ⟨d', passes, rest, rfl, rfl⟩

end Cut

/-- A reading of a template that is cut behind some items, where the whole one has the result `found`. Either the reading
comes to the same result, behind some of the items and before an item if it stops at one; the blocks that were open when
it started, `before`, have become those that are open then, `after`. Or the innermost block at the cut is blamed. -/
inductive Follows (fallback : Option String) (last : Token) (items : List Item) (before after : List OpenBlock)
    (stops : Bool) (found : α × Cursor) (reading : Except ParseError (α × Cursor)) : Prop
  | through (done : List Item) {rest : List Item} {d : Cursor} (parts : items = done ++ rest)
      (stopped : stops = true → rest ≠ []) (walk : openBlocks fallback before done = after)
      (cut : Cut last (tokensOf rest) found.2 d) (same : reading = .ok (found.1, d))
  | broken (blames : ∀ block outer, openBlocks fallback before items = block :: outer →
      reading = .error ⟨.unterminated block.keyword block.line, last.line⟩)

namespace Follows

variable {before between after : List OpenBlock} {stops stops' : Bool} {found : α × Cursor} {found' : β × Cursor}
  {reading : Except ParseError (α × Cursor)} {next : α × Cursor → Except ParseError (β × Cursor)} {a : α}

theorem ok (cut : Cut last (tokensOf items) c d) (stopped : stops = true → items ≠ []) :
    Follows fallback last items before before stops (a, c) (.ok (a, d)) :=
  .through [] (List.nil_append items).symm stopped rfl cut rfl

theorem behind (done : List Item) (walk : openBlocks fallback before done = between)
    (rest : Follows fallback last items between after stops found reading) :
    Follows fallback last (done ++ items) before after stops found reading := by
  cases rest with
  | @through more rest d parts stopped walk' cut same =>
      refine .through (done ++ more) (by rw [parts, List.append_assoc]) stopped ?_ cut same
      rw [openBlocks_append, walk, walk']
  | broken blames =>
      refine .broken fun block outer open_ => blames block outer ?_
      rwa [openBlocks_append, walk] at open_

theorem bind (first : Follows fallback last items before between stops found reading)
    (onward : ∀ {rest d}, (tokensOf rest).length ≤ (tokensOf items).length → (stops = true → rest ≠ []) →
      Cut last (tokensOf rest) found.2 d → Follows fallback last rest between after stops' found' (next (found.1, d))) :
    Follows fallback last items before after stops' found' (reading >>= next) := by
  cases first with
  | @through done rest d parts stopped walk cut same =>
      subst parts
      subst same
      have shorter : (tokensOf rest).length ≤ (tokensOf (done ++ rest)).length := by
        rw [tokensOf_append, List.length_append]
        exact Nat.le_add_left _ _
      rw [ok_bind]
      exact .behind done walk (onward shorter stopped cut)
  | broken blames =>
      refine .broken fun block outer open_ => ?_
      rw [blames block outer open_, error_bind]

theorem map (first : Follows fallback last items before after stops found reading) (result : α → β) :
    Follows fallback last items before after stops (result found.1, found.2)
      (reading >>= fun found => .ok (result found.1, found.2)) :=
  first.bind fun _ stopped cut => .ok cut stopped

end Follows

section

variable {word : Token} {value tree : Tree}

theorem tagEnd_short (cut : Cut last (content ++ finish :: front) c d)
    (unclosed : ∀ token ∈ content, token.kind ≠ .tagEnd) (isEnd : finish.kind = .tagEnd)
    (reading : tagEnd c = .ok (token, c')) :
    content = [] ∧ ∃ d', tagEnd d = .ok (token, d') ∧ Cut last front c' d' ∧ c'.opened = c.opened := by
  obtain ⟨closes, along⟩ := (tagEnd_iff cut.closed).mp reading
  obtain ⟨d', short, rest, rfl, rfl⟩ :=
    cut.upTo isEnd unclosed (by decide) (List.forall_mem_nil _) closes along
  exact ⟨rfl, d', (tagEnd_iff cut.closed_short).mpr ⟨closes, short⟩, rest, along.opened⟩

theorem expressionTag_short (cut : Cut last (content ++ finish :: front) c d)
    (unclosed : ∀ token ∈ content, token.kind ≠ .tagEnd) (isEnd : finish.kind = .tagEnd)
    (reading : expressionTag r c = .ok (value, c')) :
    ∃ d', expressionTag r d = .ok (value, d') ∧ Cut last front c' d' ∧ c'.opened = c.opened := by
  obtain ⟨tokens, close, whole, closes, along⟩ := (expressionTag_iff cut.closed).mp reading
  obtain ⟨d', short, rest, rfl, rfl⟩ :=
    cut.upTo isEnd unclosed (by decide) whole.kinds closes along
  exact ⟨d', (expressionTag_iff cut.closed_short).mpr ⟨_, _, whole, closes, short⟩, rest, along.opened⟩

theorem loopHeader_short (cut : Cut last (content ++ finish :: front) c d)
    (unclosed : ∀ token ∈ content, token.kind ≠ .tagEnd) (isEnd : finish.kind = .tagEnd)
    (fits : fitsGrammar Core.forTag c = true) {targets : LoopVariables × Tree}
    (reading : loopHeader r c = .ok (targets, c')) :
    fitsGrammar Core.forTag d = true ∧
      ∃ d', loopHeader r d = .ok (targets, d') ∧ Cut last front c' d' ∧ c'.opened = c.opened := by
  obtain ⟨head, close, isHead, closes, along⟩ := loopHeader_sound cut.closed fits reading
  obtain ⟨d', short, rest, rfl, rfl⟩ :=
    cut.upTo isEnd unclosed (by decide) isHead.kinds closes along
  obtain ⟨fits, again⟩ := loopHeader_complete cut.closed_short isHead closes short
  exact ⟨fits, d', again, rest, along.opened⟩

/-- Behind the keyword of a nested template stand its name and the end of the tag. -/
theorem nestedHead_short (cut : Cut last (content ++ finish :: front) c d)
    (unclosed : ∀ token ∈ content, token.kind ≠ .tagEnd) (isEnd : finish.kind = .tagEnd)
    (fits : fitsGrammar Core.templateTag c = true) (reading : tagEnd c.next = .ok (token, c')) :
    fitsGrammar Core.templateTag d = true ∧
      ∃ d', tagEnd d.next = .ok (token, d') ∧ Cut last front c' d' ∧ c'.opened = c.opened := by
  have isName := (fitsGrammar_template.mp fits).1
  have inner : c.current.kind ∈ innerKinds := by
    rcases isName with kind | kind <;> simp [kind, innerKinds]
  have overName := cut.closed.next (by rcases isName with kind | kind <;> rw [kind] <;> decide)
  obtain ⟨closes, onward⟩ := (tagEnd_iff (cut.closed.behind overName)).mp reading
  have along := overName.trans onward
  obtain ⟨d', short, rest, rfl, rfl⟩ :=
    cut.upTo isEnd unclosed (by decide) (by simpa using inner) closes along
  obtain ⟨front, back⟩ := short.split
  have again : d.next.Passes [token] d' := back
  refine ⟨?_, d', (tagEnd_iff (cut.closed_short.behind front)).mpr ⟨closes, again⟩, rest, along.opened⟩
  rw [fitsGrammar_template, Cursor.current_eq short.tokens, Cursor.ahead_one short.tokens]
  exact ⟨isName, closes⟩

theorem tag_of_start (cut : Cut last (tokensOf items) c d) (some_item : items ≠ [])
    (isStart : c.current.kind = .tagStart) : ∃ region more, items = .tag region :: more := by
  obtain ⟨item, items, rfl⟩ := List.exists_cons_of_ne_nil some_item
  rw [cut.current_kind.1] at isStart
  cases item with
  | text | output => cases isStart
  | tag region => exact ⟨region, items, rfl⟩

/-- The start and the keyword of a branch are those of the next tag. -/
theorem branchKeyword_short (fallback : Option String) (cut : Cut last (tokensOf items) c d) (some_item : items ≠ [])
    (reading : branchKeyword c = .ok (word, c')) :
    ∃ region more content d', items = .tag region :: more ∧
      tagParts fallback region.inside = (some word.value, content) ∧ (∀ token ∈ content, token.kind ≠ .tagEnd) ∧
      branchKeyword d = .ok (word, d') ∧ Cut last (content ++ region.finish :: tokensOf more) c' d' ∧
      c'.opened = c.opened := by
  obtain ⟨start, isStart, isKeyword, along⟩ := (branchKeyword_iff cut.closed).mp reading
  obtain ⟨region, more, rfl⟩ := tag_of_start cut some_item (by rw [Cursor.current_eq along.tokens, isStart])
  rw [tokensOf_tag] at cut
  have unclosed := region.unclosed
  cases shape : region.inside with
  | nil =>
      rw [shape] at cut
      have second := cut.second.1
      rw [Cursor.ahead_one along.tokens] at second
      have closes := region.finish_kind
      rw [← second, isKeyword] at closes
      cases closes
  | cons first content =>
      rw [shape] at cut unclosed
      have isWord := cut.second.1
      rw [Cursor.ahead_one along.tokens] at isWord
      have isFirst := cut.current.1
      rw [Cursor.current_eq along.tokens] at isFirst
      subst isWord isFirst
      have cut : Cut last ([region.start, word] ++ (content ++ region.finish :: tokensOf more)) c d := cut
      obtain ⟨d', short, rest⟩ := cut.passes along
      refine ⟨region, more, content, d', rfl, by simp [tagParts, shape, isKeyword],
        (List.forall_mem_cons.mp unclosed).2, ?_, rest, along.opened⟩
      exact (branchKeyword_iff cut.closed_short).mpr ⟨region.start, isStart, isKeyword, short⟩

/-- What the start of a tag leads to depends on what stands between its delimiters. -/
theorem resolveTag_short (cut : Cut last (content ++ finish :: front) c d)
    (unclosed : ∀ token ∈ content, token.kind ≠ .tagEnd) (isEnd : finish.kind = .tagEnd)
    (reading : resolveTag s c = .ok (id, c')) :
    ∃ keyword inner d', s.registries.tags.lookup? keyword = some id ∧
      tagParts s.fallbackTag content = (some keyword, inner) ∧ (∀ token ∈ inner, token.kind ≠ .tagEnd) ∧
      inner.length ≤ content.length ∧ resolveTag s d = .ok (id, d') ∧ Cut last (inner ++ finish :: front) c' d' := by
  rw [resolveTag] at reading
  rw [resolveTag, cut.same_current]
  dsimp only at reading ⊢
  split at reading
  · rename_i isKeyword
    split at reading
    · rename_i found
      cases reading
      rw [if_pos isKeyword]
      cases content with
      | nil =>
          rw [cut.current.1, isEnd] at isKeyword
          cases isKeyword
      | cons token inner =>
          have here := cut.current.1
          refine ⟨_, inner, _, found, by simp [tagParts, ← here, isKeyword], (List.forall_mem_cons.mp unclosed).2,
            by simp, rfl, ?_⟩
          exact Cut.next cut (by rw [← here, isKeyword]; decide)
    · cases reading
  · rename_i notKeyword
    rw [if_neg notKeyword]
    split at reading
    · rename_i fallback standsIn
      split at reading
      · rename_i found
        cases reading
        refine ⟨fallback, content, _, found, ?_, unclosed, Nat.le_refl _, rfl, cut⟩
        cases content with
        | nil => rw [tagParts, standsIn]
        | cons token content =>
            have here := cut.current.1
            simp [tagParts, ← here, notKeyword, standsIn]
      · cases reading
    · split at reading <;> cases reading

theorem assignment_short (enough : Nat) (cut : Cut last (content ++ finish :: front) c d)
    (unclosed : ∀ token ∈ content, token.kind ≠ .tagEnd) (isEnd : finish.kind = .tagEnd)
    (fits : fitsGrammar Core.setTag c = true)
    (reading : tagRest s (budget + 1) id Core.setTag line c = .ok (tree, c')) :
    fitsGrammar Core.setTag d = true ∧
      ∃ d', tagRest s (enough + 1) id Core.setTag line d = .ok (tree, d') ∧ Cut last front c' d' := by
  rw [tagRest] at reading
  obtain ⟨⟨target, afterName⟩, naming, rest⟩ := bind_eq_ok.mp reading
  obtain ⟨⟨equals, afterSign⟩, sign, rest⟩ := bind_eq_ok.mp rest
  obtain ⟨⟨value, last⟩, taking, ⟨⟩⟩ := bind_eq_ok.mp rest
  obtain ⟨isVariable, overName⟩ := (name_iff cut.closed).mp naming
  have behindName := cut.closed.behind overName
  obtain ⟨isEquals, overSign⟩ := (expect_iff behindName (by decide)).mp sign
  obtain ⟨tokens, close, whole, closes, onward⟩ := (expressionTag_iff (behindName.behind overSign)).mp taking
  have isSign : equals.isPunctuation "=" = true := isEquals
  have inner : ∀ token ∈ target :: equals :: tokens, token.kind ∈ innerKinds := by
    simp only [List.forall_mem_cons]
    exact ⟨kind_of_isVariable isVariable, kind_of_isPunctuation isSign, whole.kinds⟩
  have along : c.Passes ((target :: equals :: tokens) ++ [close]) c' := overName.trans (overSign.trans onward)
  obtain ⟨d', short, rest, rfl, rfl⟩ := cut.upTo isEnd unclosed (by decide) inner closes along
  have short : d.Passes ([target] ++ ([equals] ++ (tokens ++ [close]))) d' := short
  obtain ⟨between, front, back⟩ := short.between
  obtain ⟨behind, middle, back⟩ := back.between
  have named : name "variable name" d = .ok (target, between) := (name_iff cut.closed_short).mpr ⟨isVariable, front⟩
  have signed := (expect_iff (cut.closed_short.behind front) (by decide)).mpr ⟨isEquals, middle⟩
  have valued := (expressionTag_iff ((cut.closed_short.behind front).behind middle)).mpr ⟨_, _, whole, closes, back⟩
  refine ⟨?_, d', ?_, rest⟩
  · rw [fitsGrammar_set] at fits ⊢
    rw [Cursor.current_eq along.tokens, Cursor.ahead_one along.tokens] at fits
    rwa [Cursor.current_eq short.tokens, Cursor.ahead_one short.tokens]
  · rw [tagRest, show Core.setTag.form = .assignment from rfl]
    dsimp only
    rw [named]
    dsimp only [ok_bind]
    rw [signed]
    dsimp only [ok_bind]
    rw [valued]
    rfl

end

/-- Blanks in front of the first branch stand on both sides of the cut, or the cut comes before their end. -/
theorem blanks_split (fallback : Option String) {blanks rest later : List Token}
    (areBlank : ∀ blank ∈ blanks, IsBlankText blank) (same : blanks ++ rest = tokensOf items ++ later) :
    (∃ done more, items = done ++ more ∧ more ≠ [] ∧ blanks = tokensOf done ∧
        ∀ opened, openBlocks fallback opened done = opened) ∨
      (∀ blank ∈ tokensOf items, IsBlankText blank) ∧ ∀ opened, openBlocks fallback opened items = opened := by
  induction items generalizing blanks with
  | nil => exact .inr ⟨List.forall_mem_nil _, fun opened => rfl⟩
  | cons item items ih =>
      cases blanks with
      | nil => exact .inl ⟨[], _, rfl, List.cons_ne_nil _ _, rfl, fun opened => rfl⟩
      | cons blank blanks =>
          obtain ⟨isBlank, others⟩ := List.forall_mem_cons.mp areBlank
          obtain ⟨first, more, shape, kind⟩ := item.tokens_cons
          rw [tokensOf_cons, shape] at same
          obtain ⟨rfl, -⟩ := List.cons.inj same
          rw [isBlank.1] at kind
          cases item with
          | text token isText =>
              obtain ⟨rfl, rfl⟩ := List.cons.inj shape
              rcases ih others (List.cons.inj same).2 with ⟨done, more, rfl, some_item, rfl, walk⟩ | ⟨allBlank, walk⟩
              · exact .inl ⟨.text token isText :: done, more, rfl, some_item, rfl, walk⟩
              · exact .inr ⟨List.forall_mem_cons.mpr ⟨isBlank, allBlank⟩, walk⟩
          | output | tag => cases kind

theorem same_second {region : Delimited .tagStart .tagEnd} (cut : Cut last (tokensOf (.tag region :: items)) c d) :
    d.stream.ahead 1 = c.stream.ahead 1 := by
  rw [tokensOf_tag] at cut
  cases shape : region.inside with
  | nil =>
      rw [shape] at cut
      exact cut.second.2.trans cut.second.1.symm
  | cons token content =>
      rw [shape] at cut
      exact cut.second.2.trans cut.second.1.symm

/-- Before the first branch of a choice, only blanks stand between its head and the cut; the choice itself is open. -/
theorem firstBranch_follows {before after : List OpenBlock} {stops : Bool} {found : α × Cursor}
    {next : Cursor → Except ParseError (α × Cursor)} (cut : Cut last (tokensOf items) c d)
    (reading : firstBranch s line c = .ok c')
    (onward : ∀ {rest d'}, (tokensOf rest).length ≤ (tokensOf items).length → rest ≠ [] →
      Cut last (tokensOf rest) c' d' → c'.opened = c.opened →
      Follows fallback last rest (⟨"switch", line⟩ :: before) after stops found (next d')) :
    Follows fallback last items (⟨"switch", line⟩ :: before) after stops found (firstBranch s line d >>= next) := by
  obtain ⟨blanks, areBlank, along, isStart, isBranch⟩ := (firstBranch_iff cut.closed).mp reading
  obtain ⟨later, whole⟩ := cut.whole
  rcases blanks_split fallback areBlank (along.tokens.symm.trans whole.symm) with
    ⟨done, more, rfl, some_item, rfl, walk⟩ | ⟨allBlank, walk⟩
  · rw [tokensOf_append] at cut
    obtain ⟨d', short, rest⟩ := cut.passes along
    have again : firstBranch s line d = .ok d' := by
      obtain ⟨region, more, rfl⟩ := tag_of_start rest some_item isStart
      refine (firstBranch_iff cut.closed_short).mpr ⟨_, areBlank, short, rest.current_kind.2, ?_⟩
      rwa [same_second rest]
    have shorter : (tokensOf more).length ≤ (tokensOf (done ++ more)).length := by
      rw [tokensOf_append, List.length_append]
      exact Nat.le_add_left _ _
    rw [again, ok_bind]
    exact .behind done (walk _) (onward shorter some_item rest along.opened)
  · refine .broken fun block outer open_ => ?_
    rw [walk] at open_
    obtain ⟨rfl, rfl⟩ := List.cons.inj open_
    have short : d.Passes (tokensOf items) (d.skip (tokensOf items).length) :=
      .of_tokens cut.short (List.cons_ne_nil _ _)
    have atEnd : (d.skip (tokensOf items).length).current = last :=
      Cursor.current_eq (Cursor.tokens_skip cut.short (List.cons_ne_nil _ _))
    have counted := congrArg List.length cut.short
    rw [← d.later_length, List.length_append, List.length_singleton] at counted
    rw [firstBranch, skipBlankText_complete allBlank short (by rw [atEnd, cut.isEnd]; decide) (by omega)]
    dsimp only [ok_bind]
    rw [atEnd, if_pos cut.isEnd]
    rfl

end Templating.Parse
