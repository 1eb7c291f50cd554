import Templating.Proofs.OutlineReading
import Templating.Proofs.ReadingFaults

/-! # Balanced readings

What a reader of a template opens it closes again, and every fault of the reader is out of reach. A tag is left right
behind its closer, outside of all frames, so a body meets texts, openers and the end only; and a body inside a block stops
in front of a keyword. The induction is on the budget, for bodies, tags and branches at once.
-/

namespace Templating.Parse

open Source (innerKinds)

variable {s : Setting} {r : Registries} {c c' between : Cursor} {closer : TokenKind} {budget : Nat}

/-- A reading leaves the frame it starts in or before, with fewer tokens to come than `bound`, or it fails without a fault
of the reader. -/
structure Leads {α : Type} (bound : Nat) (reading : Except ParseError (α × Cursor)) : Prop where
  framed : ∀ {a c'}, reading = .ok (a, c') → c'.Framed none
  shorter : ∀ {a c'}, reading = .ok (a, c') → c'.tokens.length < bound
  blameless : Blameless reading

namespace Leads

variable {α β : Type} {bound : Nat}

theorem ok (a : α) (framed : c.Framed none) (shorter : c.tokens.length < bound) : Leads bound (.ok (a, c)) := by
  refine ⟨?_, ?_, .ok _⟩
  · rintro _ _ ⟨⟩
    exact framed
  · rintro _ _ ⟨⟩
    exact shorter

theorem error {e : ParseError} (plain : e.cause.isInternal = false) :
    Leads bound (.error e : Except ParseError (α × Cursor)) :=
  ⟨nofun, nofun, .error plain⟩

theorem unexpected {expected : String} {found : Token} (plain : expected ∉ ParseCause.assured) :
    Leads bound (.error (.unexpected expected found) : Except ParseError (α × Cursor)) :=
  ⟨nofun, nofun, .unexpected plain⟩

theorem bind {reading : Except ParseError α} {rest : α → Except ParseError (β × Cursor)} (first : Blameless reading)
    (onward : ∀ a, reading = .ok a → Leads bound (rest a)) : Leads bound (reading >>= rest) := by
  refine ⟨?_, ?_, first.bind fun a done => (onward a done).blameless⟩
  · intro b c' done
    obtain ⟨a, here, rest⟩ := bind_eq_ok.mp done
    exact (onward a here).framed rest
  · intro b c' done
    obtain ⟨a, here, rest⟩ := bind_eq_ok.mp done
    exact (onward a here).shorter rest

theorem mono {reading : Except ParseError (α × Cursor)} {larger : Nat} (leads : Leads bound reading)
    (below : bound ≤ larger) : Leads larger reading :=
  ⟨leads.framed, fun done => (leads.shorter done).trans_le below, leads.blameless⟩

theorem map {reading : Except ParseError (α × Cursor)} {result : α × Cursor → β} (leads : Leads bound reading) :
    Leads bound (reading >>= fun found => .ok (result found, found.2)) :=
  .bind leads.blameless fun _ done => .ok _ (leads.framed done) (leads.shorter done)

end Leads

theorem leads_tagEnd (framed : c.Framed (some closer)) : Leads c.tokens.length (tagEnd c) := by
  have ends {token : Token} {c' : Cursor} (ending : tagEnd c = .ok (token, c')) :
      token.kind = .tagEnd ∧ c.Passes [token] c' := (tagEnd_iff framed.closed).mp ending
  refine ⟨fun ending => ?_, fun ending => ?_, blameless_expect (by decide)⟩
  · obtain ⟨isEnd, passes⟩ := ends ending
    exact framed.closing passes (by simp [isEnd, innerKinds])
  · exact (ends ending).2.shorter (List.cons_ne_nil _ _)

theorem within_expression (closed : c.Closed) {tree : Tree} (reading : expression r c = .ok (tree, c')) : c.Within c' :=
  (staysInside r c.budget).binary closed reading

theorem leads_expressionTag (framed : c.Framed (some closer)) : Leads c.tokens.length (expressionTag r c) := by
  apply Leads.bind (blameless_expression framed.closed)
  rintro ⟨value, between⟩ taking
  have within := within_expression framed.closed taking
  have ending := leads_tagEnd (framed.within within)
  have length := within.length_le
  refine .bind ending.blameless fun found done => .ok _ (ending.framed done) ?_
  have shorter := ending.shorter done
  omega

theorem blameless_name {what : String} (plain : what ∉ ParseCause.assured) : Blameless (name what c) := by
  rw [name]
  split
  · exact .ok _
  · exact .unexpected plain

theorem within_name (closed : c.Closed) {what : String} {token : Token} (naming : name what c = .ok (token, c')) :
    c.Within c' := by
  obtain ⟨isVariable, passes⟩ := (name_iff closed).mp naming
  exact ⟨[token], passes, by simpa using kind_of_isVariable isVariable⟩

theorem blameless_loopVariables : Blameless (loopVariables c) := by
  apply Blameless.bind (blameless_name (by decide))
  rintro ⟨first, between⟩ _
  dsimp only
  split
  · exact .bind (blameless_name (by decide)) fun _ _ => .ok _
  · exact .ok _

theorem within_loopVariables (closed : c.Closed) {targets : LoopVariables} (naming : loopVariables c = .ok (targets, c')) :
    c.Within c' := by
  obtain ⟨⟨first, between⟩, one, rest⟩ := bind_eq_ok.mp naming
  have front := within_name closed one
  dsimp only at rest
  split at rest
  · rename_i comma
    obtain ⟨⟨second, last⟩, two, ⟨⟩⟩ := bind_eq_ok.mp rest
    have along := front.trans (.punctuation (front.behind closed) comma)
    exact along.trans (within_name (along.behind closed) two)
  · cases rest
    exact front

theorem blameless_expectWord (text : String) : Blameless (c.expectOneOf [.word text]) := by
  refine .bind ?_ fun _ _ => .ok _
  rw [TokenStream.expectOneOf]
  split
  · exact .ok _
  · exact .unexpected (ParseCause.quoted_not_assured text)

theorem blameless_loopTargets (closed : c.Closed) : Blameless (loopTargets r c) := by
  apply Blameless.bind blameless_loopVariables
  rintro ⟨targets, between⟩ naming
  have front := within_loopVariables closed naming
  apply Blameless.bind (blameless_expectWord "in")
  rintro ⟨word, behind⟩ wording
  obtain ⟨-, passes⟩ := (word_iff (front.behind closed)).mp wording
  exact .bind (blameless_expression ((front.behind closed).behind passes)) fun _ _ => .ok _

theorem within_loopTargets (closed : c.Closed) {found : LoopVariables × Tree} (reading : loopTargets r c = .ok (found, c')) :
    c.Within c' := by
  obtain ⟨⟨targets, between⟩, naming, rest⟩ := bind_eq_ok.mp reading
  obtain ⟨⟨word, behind⟩, wording, rest⟩ := bind_eq_ok.mp rest
  obtain ⟨⟨iterable, last⟩, taking, ⟨⟩⟩ := bind_eq_ok.mp rest
  have front := within_loopVariables closed naming
  obtain ⟨isWord, passes⟩ := (word_iff (front.behind closed)).mp wording
  have along : between.Within behind := ⟨[word], passes, by simpa using kind_of_isWord isWord⟩
  have middle := front.trans along
  exact middle.trans (within_expression (middle.behind closed) taking)

theorem leads_loopHeader (framed : c.Framed (some closer)) : Leads c.tokens.length (loopHeader r c) := by
  have closed := framed.closed
  -- What stands behind the head is the end of the tag.
  have finished {d : Cursor} (within : c.Within d) (found : LoopVariables × Tree) :
      Leads c.tokens.length (tagEnd d >>= fun finish => .ok (found, finish.2)) := by
    have ending := leads_tagEnd (framed.within within)
    have length := within.length_le
    refine .bind ending.blameless fun finish done => .ok _ (ending.framed done) ?_
    have shorter := ending.shorter done
    omega
  rw [loopHeader_eq]
  split
  · rename_i bracketed
    have bracket := Cursor.Within.punctuation closed bracketed
    have inside := bracket.behind closed
    apply Leads.bind (blameless_loopTargets (inside.enter _ _ _))
    rintro ⟨found, between⟩ taking
    have within := within_loopTargets (inside.enter _ _ _) taking
    apply Leads.bind (blameless_bracket within ")")
    intro behind closing
    exact finished (bracket.trans (.closed inside within closing)) found
  · apply Leads.bind (blameless_loopTargets closed)
    rintro ⟨found, between⟩ taking
    exact finished (within_loopTargets closed taking) found

theorem leads_output (framed : c.Framed none) (isStart : c.current.kind = .expressionStart) :
    Leads c.tokens.length (output s c) := by
  have closed := framed.closed
  have along := closed.next (by rw [isStart]; decide)
  have inside := closed.behind along
  have opened := framed.opening along (by rw [isStart]; rfl)
  have fewer := along.shorter (List.cons_ne_nil _ _)
  rw [output]
  apply Leads.bind
  · rw [Setting.printTag]
    split
    · exact .ok _
    · exact .error rfl
  intro id _
  apply Leads.bind (blameless_expression (inside.enter _ _ _))
  rintro ⟨value, between⟩ taking
  have within := within_expression (inside.enter _ _ _) taking
  apply Leads.bind (blameless_close within (by decide))
  intro behind closing
  obtain ⟨used, entered, inner⟩ := within
  obtain ⟨last, rfl, passes⟩ := entered.of_enter
  obtain ⟨accepted, rfl⟩ := Cursor.of_close_enter closing
  have isEnd : last.current.kind = .expressionEnd := beq_iff_eq.mp accepted
  have onward := (inside.behind passes).next (by rw [isEnd]; decide)
  have within := opened.within ⟨used, passes, inner⟩
  have length := passes.length
  have shorter := onward.shorter (List.cons_ne_nil _ _)
  exact .ok _ (within.closing onward (by simp [isEnd, innerKinds])) (by omega)

theorem framed_openBlock (definition : TagDefinition) (line : Nat) (c : Cursor) {open_ : Option TokenKind} :
    (openBlock definition line c).Framed open_ ↔ c.Framed open_ :=
  Iff.rfl

theorem tokens_openBlock (definition : TagDefinition) (line : Nat) (c : Cursor) :
    (openBlock definition line c).tokens = c.tokens :=
  rfl

theorem Leads.opened {α : Type} {reading : Except ParseError (α × Cursor)} {a : α} {definition : TagDefinition} {line : Nat}
    {used : List Token} (leads : Leads (openBlock definition line c).tokens.length reading)
    (entered : (openBlock definition line c).Passes used c') (done : reading = .ok (a, c')) :
    ∃ behind, c' = openBlock definition line behind ∧ behind.Framed none ∧ behind.tokens.length < c.tokens.length := by
  have framed := leads.framed done
  have shorter := leads.shorter done
  obtain ⟨behind, rfl, -⟩ := entered.of_enter
  exact ⟨behind, rfl, framed, shorter⟩

/-- A tag with a keyword is in front. -/
def AtKeyword (c : Cursor) : Prop :=
  c.current.kind = .tagStart ∧ (c.stream.ahead 1).kind = .keyword

/-- In front of a tag with a keyword, both are found, and the frame of the tag is open behind them. -/
theorem branchKeyword_of_atKeyword (framed : c.Framed none) (ahead : AtKeyword c) (definition : TagDefinition) (line : Nat) :
    ∃ word behind, branchKeyword (openBlock definition line c) = .ok (word, openBlock definition line behind) ∧
      behind.Framed (some .tagEnd) ∧ behind.tokens.length < c.tokens.length := by
  obtain ⟨isStart, isKeyword⟩ := ahead
  have closed := framed.closed
  have along := closed.next (by rw [isStart]; decide)
  have peeked : c.stream.ahead 1 = c.next.current := Cursor.ahead_one along.tokens
  rw [peeked] at isKeyword
  have onward := (closed.behind along).next (by rw [isKeyword]; decide)
  have found := (branchKeyword_iff (closed.enter definition.bodyState definition.keyword line)).mpr
    ⟨c.current, isStart, isKeyword, (along.trans onward).enter _ _ _⟩
  have opened := framed.opening along (by rw [isStart]; rfl)
  refine ⟨c.next.current, c.next.next, found, ?_, (along.trans onward).shorter (List.cons_ne_nil _ _)⟩
  exact opened.within (.next (closed.behind along) isKeyword (by simp [innerKinds]))

theorem Ended.atKeyword {definition : TagDefinition} {line : Nat} (isBlock : (definition.bodyState != .text) = true)
    (ended : Ended s (openBlock definition line c)) : AtKeyword c := by
  rcases ended with ⟨-, outside⟩ | ⟨isStart, isKeyword, -⟩
  · simp [openBlock, Cursor.enter, isBlock] at outside
  · exact ⟨isStart, isKeyword⟩

theorem blameless_skipBlankText (count : Nat) : Blameless (skipBlankText c count) := by
  induction count generalizing c with
  | zero => exact .ok _
  | succ count ih =>
      rw [skipBlankText]
      split
      · split
        · exact ih
        · exact .error rfl
      · exact .ok _

theorem blameless_firstBranch {line : Nat} : Blameless (firstBranch s line c) := by
  apply Blameless.bind (blameless_skipBlankText _)
  intro behind _
  dsimp only
  split
  · exact .error rfl
  split
  · split
    · exact .ok _
    · exact .error rfl
  · exact .error rfl

theorem blameless_resolveTag : Blameless (resolveTag s c) := by
  rw [resolveTag]
  dsimp only
  split
  · split
    · exact .ok _
    · exact .error rfl
  split
  · split
    · exact .ok _
    · exact .error rfl
  split
  · exact .error rfl
  · exact .unexpected (by decide)

theorem blameless_textNode (text : Token) : Blameless (textNode s text) := by
  refine .bind ?_ fun _ _ => .ok _
  rw [Setting.printTag]
  split
  · exact .ok _
  · exact .error rfl

section

variable {id line open_ : Nat} {definition : TagDefinition} {words : BranchWords} {hasLast : Bool} {tree : Tree}

/-- With the core tags a block is still open behind its body, and a keyword is in front. -/
theorem block_ends (core : s.registries.tags.IsCore) (owns : s.registries.operators.OwnsAliases)
    (isBlock : (definition.bodyState != .text) = true) (closed : c.Closed)
    (reading : block s budget line (openBlock definition open_ c) = .ok (tree, between)) :
    ∃ behind, between = openBlock definition open_ behind ∧ AtKeyword behind := by
  obtain ⟨used, behind, rfl, -, -, ended⟩ :=
    block_outlined (fun smaller _ => (readings_outlined core owns smaller).1) closed reading
  exact ⟨behind, rfl, ended.atKeyword isBlock⟩

/-- The readers of a template lead on with a budget of eight steps for every token to come and some more. -/
structure Guided (s : Setting) (budget : Nat) : Prop where
  body : ∀ {c}, c.Framed none → 8 * c.tokens.length + 4 ≤ budget → Leads (c.tokens.length + 1) (body s budget c)
  block : ∀ line {c}, c.Framed none → 8 * c.tokens.length + 5 ≤ budget →
    Leads (c.tokens.length + 1) (block s budget line c)
  tag : ∀ {c}, c.Framed none → c.current.kind = .tagStart → 8 * c.tokens.length + 3 ≤ budget →
    Leads c.tokens.length (tag s budget c)
  tagRest : ∀ line {id definition c closer}, s.registries.tags.get? id = some definition →
    fitsGrammar definition c = true → c.Framed (some closer) → 8 * c.tokens.length + 1 ≤ budget →
    Leads c.tokens.length (tagRest s budget id definition line c)
  branches : ∀ words hasLast line definition {c}, (definition.bodyState != .text) = true → c.Framed none →
    AtKeyword c → 8 * c.tokens.length + 1 ≤ budget →
    Leads c.tokens.length (branches s budget definition words hasLast (openBlock definition line c))

namespace Guided

theorem body_succ (guided : Guided s budget) (framed : c.Framed none) (enough : 8 * c.tokens.length + 4 ≤ budget + 1) :
    Leads (c.tokens.length + 1) (Parse.body s (budget + 1) c) := by
  -- A piece leads outside of its frame, and the body goes on from there.
  have onward {d : Cursor} (node : Tree) (outside : d.Framed none) (shorter : d.tokens.length < c.tokens.length) :
      Leads (c.tokens.length + 1) (Parse.body s budget d >>= fun found => .ok (node :: found.1, found.2)) := by
    have rest := guided.body outside (by omega)
    refine .bind rest.blameless fun found done => .ok _ (rest.framed done) ?_
    have fewer := rest.shorter done
    omega
  have pieces := framed.outside
  rw [Parse.body]
  split
  · split
    · exact .error rfl
    · exact .ok _ framed (Nat.lt_succ_self _)
  · rename_i isText
    have along := framed.closed.next (by rw [isText]; decide)
    refine .bind (blameless_textNode _) fun node _ => ?_
    exact onward node (framed.texts along (by simpa using isText)) (along.shorter (List.cons_ne_nil _ _))
  · rename_i isStart
    have writing := leads_output (s := s) framed isStart
    refine .bind writing.blameless fun found done => ?_
    exact onward found.1 (writing.framed done) (writing.shorter done)
  · rename_i isStart
    dsimp only
    split
    · split
      · exact .ok _ framed (Nat.lt_succ_self _)
      · rw [Setting.misplaced]
        split <;> exact .error rfl
    · have tagging := guided.tag framed isStart (by omega)
      refine .bind tagging.blameless fun found done => ?_
      exact onward found.1 (tagging.framed done) (tagging.shorter done)
  · rename_i notEnd notText notExpression notTag
    simp only [List.mem_cons, List.not_mem_nil, or_false] at pieces
    tauto

theorem block_succ (guided : Guided s budget) (framed : c.Framed none) (enough : 8 * c.tokens.length + 5 ≤ budget + 1) :
    Leads (c.tokens.length + 1) (Parse.block s (budget + 1) line c) := by
  rw [Parse.block]
  exact (guided.body framed (by omega)).map

theorem tag_succ (guided : Guided s budget) (framed : c.Framed none) (isStart : c.current.kind = .tagStart)
    (enough : 8 * c.tokens.length + 3 ≤ budget + 1) : Leads c.tokens.length (Parse.tag s (budget + 1) c) := by
  have found : c.expect .tagStart none = .ok (c.current, c.next) :=
    Cursor.expect_of_fits (fits_kind.mpr isStart)
  have along := framed.closed.next (by rw [isStart]; decide)
  have shorter := along.shorter (List.cons_ne_nil _ _)
  have opened := framed.opening along (by rw [isStart]; rfl)
  rw [Parse.tag, found]
  dsimp only [ok_bind]
  refine .bind blameless_resolveTag fun resolved resolving => ?_
  obtain ⟨id, behind⟩ := resolved
  obtain ⟨keyword, head, -, passes, inner, -⟩ := resolveTag_sound opened.closed resolving
  have length := passes.length
  have rest := opened.within ⟨head, passes, inner⟩
  dsimp only
  split
  · exact .unexpected (by decide)
  · rename_i definition numbered
    split
    · rename_i fits
      exact (guided.tagRest c.current.line numbered fits rest (by omega)).mono (by omega)
    · exact .error rfl

theorem divided (guided : Guided s budget) (core : s.registries.tags.IsCore)
    (owns : s.registries.operators.OwnsAliases) {β : Type} {result : Tree × Cursor → (List Tree × Bool) × Cursor → β}
    (isBlock : (definition.bodyState != .text) = true) (framed : c.Framed none) (enough : 8 * c.tokens.length + 5 ≤ budget) :
    Leads (c.tokens.length + 1) (Parse.block s budget line (openBlock definition open_ c) >>= fun first =>
      Parse.branches s budget definition words hasLast first.2 >>= fun later => .ok (result first later, later.2)) := by
  have blocking : Leads (c.tokens.length + 1) (Parse.block s budget line (openBlock definition open_ c)) :=
    guided.block line ((framed_openBlock ..).mpr framed) enough
  refine .bind blocking.blameless fun first done => ?_
  obtain ⟨content, between⟩ := first
  obtain ⟨behind, rfl, ahead⟩ := block_ends core owns isBlock framed.closed done
  have inside := (framed_openBlock ..).mp (blocking.framed done)
  have shorter := blocking.shorter done
  rw [tokens_openBlock] at shorter
  have rest := guided.branches words hasLast open_ definition isBlock inside ahead (by omega)
  refine .bind rest.blameless fun later finished => .ok _ (rest.framed finished) ?_
  have fewer := rest.shorter finished
  omega

theorem branches_succ (guided : Guided s budget) (core : s.registries.tags.IsCore)
    (owns : s.registries.operators.OwnsAliases) (isBlock : (definition.bodyState != .text) = true)
    (framed : c.Framed none) (ahead : AtKeyword c) (enough : 8 * c.tokens.length + 1 ≤ budget + 1) :
    Leads c.tokens.length (Parse.branches s (budget + 1) definition words hasLast (openBlock definition line c)) := by
  obtain ⟨word, behind, found, inside, shorter⟩ := branchKeyword_of_atKeyword framed ahead definition line
  have closed := inside.closed.enter definition.bodyState definition.keyword line
  have opened := (framed_openBlock definition line behind).mpr inside
  rw [Parse.branches, found]
  dsimp only [ok_bind]
  split
  · have valued := leads_expressionTag (r := s.registries) opened
    refine .bind valued.blameless fun value done => ?_
    obtain ⟨tokens, finish, -, -, entered⟩ := (expressionTag_iff closed).mp done
    obtain ⟨middle, same, outside, fewer⟩ := valued.opened entered done
    rw [same]
    exact (guided.divided core owns isBlock outside (by omega)).mono (by omega)
  split
  · have ending := leads_tagEnd opened
    refine .bind ending.blameless fun finish done => ?_
    obtain ⟨-, entered⟩ := (tagEnd_iff closed).mp done
    obtain ⟨middle, same, outside, fewer⟩ := ending.opened entered done
    rw [same]
    exact (guided.divided core owns isBlock outside (by omega)).mono (by omega)
  split
  · have ending := leads_tagEnd opened
    refine .bind ending.blameless fun finish done => ?_
    obtain ⟨-, entered⟩ := (tagEnd_iff closed).mp done
    obtain ⟨middle, same, outside, fewer⟩ := ending.opened entered done
    rw [same]
    rw [closeBlock, openBlock, Cursor.leave_enter]
    exact .ok _ outside (by omega)
  · exact .unexpected (ParseCause.quoted_not_assured _)

theorem assignment_leads (framed : c.Framed (some closer)) {result : Token × Cursor → Tree × Cursor → Tree} :
    Leads c.tokens.length (name "variable name" c >>= fun target =>
      target.2.expect .punctuation (some "=") >>= fun sign =>
        expressionTag s.registries sign.2 >>= fun value => .ok (result target value, value.2)) := by
  refine .bind (blameless_name (by decide)) fun target naming => .bind (blameless_sign "=") fun sign expected => ?_
  have front := within_name framed.closed naming
  have along := front.trans (within_expect (front.behind framed.closed) (by simp [innerKinds]) expected)
  have length := along.length_le
  exact ((leads_expressionTag (framed.within along)).map).mono length

/-- Behind the name of a nested template come the end of its tag, its body and its closing tag. -/
theorem nested_leads (guided : Guided s budget) (core : s.registries.tags.IsCore)
    (owns : s.registries.operators.OwnsAliases) (framed : c.Framed (some closer))
    (fits : fitsGrammar Core.templateTag c = true) (enough : 8 * c.tokens.length ≤ budget) {result : Tree × Cursor → Tree} :
    Leads c.tokens.length (tagEnd c.next >>= fun head =>
      Parse.block s budget line (openBlock Core.templateTag line head.2) >>= fun content =>
        branchKeyword content.2 >>= fun word => tagEnd word.2 >>= fun last =>
          closeBlock Core.templateTag last.1.line last.2 >>= fun behind => .ok (result content, behind)) := by
  have named : c.current.kind ∈ innerKinds := by
    rcases (fitsGrammar_template.mp fits).1 with kind | kind <;> simp [kind, innerKinds]
  have front := Cursor.Within.next framed.closed rfl named
  have length := front.length_le
  have heading := leads_tagEnd (framed.within front)
  refine .bind heading.blameless fun head done => ?_
  have outside := heading.framed done
  have shorter := heading.shorter done
  have blocking : Leads (head.2.tokens.length + 1) (Parse.block s budget line (openBlock Core.templateTag line head.2)) :=
    guided.block line ((framed_openBlock ..).mpr outside) (by rw [tokens_openBlock]; omega)
  refine .bind blocking.blameless fun content finished => ?_
  obtain ⟨tree, between⟩ := content
  obtain ⟨behind, rfl, ahead⟩ := block_ends core owns (by decide) outside.closed finished
  have inside := (framed_openBlock ..).mp (blocking.framed finished)
  have fewer := blocking.shorter finished
  rw [tokens_openBlock] at fewer
  obtain ⟨word, last, found, rest, less⟩ := branchKeyword_of_atKeyword inside ahead Core.templateTag line
  dsimp only
  rw [found]
  dsimp only [ok_bind]
  have ending := leads_tagEnd ((framed_openBlock Core.templateTag line last).mpr rest)
  refine .bind ending.blameless fun finish closed => ?_
  obtain ⟨-, entered⟩ := (tagEnd_iff (rest.closed.enter _ _ _)).mp closed
  obtain ⟨final, same, after, least⟩ := ending.opened entered closed
  rw [same, closeBlock, openBlock, Cursor.leave_enter]
  exact .ok _ after (by omega)

theorem tagRest_succ (guided : Guided s budget) (core : s.registries.tags.IsCore)
    (owns : s.registries.operators.OwnsAliases) (numbered : s.registries.tags.get? id = some definition)
    (fits : fitsGrammar definition c = true) (framed : c.Framed (some closer))
    (enough : 8 * c.tokens.length + 1 ≤ budget + 1) :
    Leads c.tokens.length (Parse.tagRest s (budget + 1) id definition line c) := by
  have isCore := coreTag?_of_get? core numbered
  have valued := leads_expressionTag (r := s.registries) framed
  rw [Parse.tagRest]
  cases form : definition.form with
  | print => exact valued.map
  | inclusion => exact valued.map
  | assignment => exact assignment_leads framed
  | conditional =>
      rw [form] at isCore
      obtain rfl := Option.some.inj isCore
      refine .bind valued.blameless fun found done => ?_
      have shorter := valued.shorter done
      exact (guided.divided core owns (by decide) (valued.framed done) (by omega)).mono (by omega)
  | loop =>
      rw [form] at isCore
      obtain rfl := Option.some.inj isCore
      have headed := leads_loopHeader (r := s.registries) framed
      refine .bind headed.blameless fun found done => ?_
      have shorter := headed.shorter done
      exact (guided.divided core owns (by decide) (headed.framed done) (by omega)).mono (by omega)
  | switch =>
      rw [form] at isCore
      obtain rfl := Option.some.inj isCore
      refine .bind valued.blameless fun found done => .bind blameless_firstBranch fun afterBlanks skipping => ?_
      have outside := valued.framed done
      have shorter := valued.shorter done
      obtain ⟨blanks, areBlank, entered, isStart, isKeyword, -⟩ :=
        (firstBranch_iff (outside.closed.enter _ _ _)).mp skipping
      obtain ⟨behind, rfl, passes⟩ := entered.of_enter
      have inside := outside.texts passes fun blank member => (areBlank blank member).1
      have length := passes.length
      have rest := guided.branches switchWords false line Core.switchTag (by decide) inside ⟨isStart, isKeyword⟩ (by omega)
      exact rest.map.mono (by omega)
  | nested =>
      rw [form] at isCore
      obtain rfl := Option.some.inj isCore
      exact guided.nested_leads core owns framed fits (by omega)
  | custom takesExpression =>
      rw [form] at isCore
      cases isCore

end Guided

theorem guided (core : s.registries.tags.IsCore) (owns : s.registries.operators.OwnsAliases) (budget : Nat) :
    Guided s budget := by
  induction budget with
  | zero => constructor <;> intros <;> omega
  | succ budget ih =>
      exact ⟨fun framed enough => ih.body_succ framed enough, fun _ _ framed enough => ih.block_succ framed enough,
        fun framed isStart enough => ih.tag_succ framed isStart enough,
        fun _ _ _ _ _ numbered fits framed enough => ih.tagRest_succ core owns numbered fits framed enough,
        fun _ _ _ _ _ isBlock framed ahead enough => ih.branches_succ core owns isBlock framed ahead enough⟩

end

/-- A reading with a result leaves open what was open where it started. -/
def Balances {α : Type} (c : Cursor) (reading : Except ParseError (α × Cursor)) : Prop :=
  ∀ a c', reading = .ok (a, c') → c'.opened = c.opened

/-- Every reader that starts at a place leaves open what is open there; branches close the block that they belong to. -/
structure Balanced (s : Setting) (c : Cursor) : Prop where
  binary : ∀ budget least, Balances c (binary s.registries budget least c)
  climb : ∀ budget least left earlier, Balances c (climb s.registries budget least left earlier c)
  operands : ∀ budget found left line, Balances c (operands s.registries budget found left line c)
  unary : ∀ budget, Balances c (unary s.registries budget c)
  primary : ∀ budget, Balances c (primary s.registries budget c)
  trailers : ∀ budget base, Balances c (trailers s.registries budget base c)
  arguments : ∀ budget label, ∀ closer ∈ [closeParen, closeBracket],
    Balances c (arguments s.registries budget label closer c)
  items : ∀ budget closer, Balances c (items s.registries budget closer c)
  expressionTag : Balances c (expressionTag s.registries c)
  loopHeader : Balances c (loopHeader s.registries c)
  output : c.current.kind = .expressionStart → Balances c (output s c)
  body : ∀ budget, Balances c (body s budget c)
  block : ∀ budget line, Balances c (block s budget line c)
  tag : ∀ budget, Balances c (tag s budget c)
  branches : ∀ budget definition line hasLast, ∀ words ∈ [ifWords, forWords, switchWords],
    Balances c (branches s budget definition words hasLast (openBlock definition line c))

section

variable {α : Type} {reading : Except ParseError (α × Cursor)}

theorem balances_of_passes (moves : ∀ a c', reading = .ok (a, c') → ∃ used, c.Passes used c') : Balances c reading := by
  intro a c' done
  obtain ⟨used, passes⟩ := moves a c' done
  exact passes.opened

theorem balances_of_within (moves : ∀ a c', reading = .ok (a, c') → c.Within c') : Balances c reading :=
  balances_of_passes fun a c' done => (moves a c' done).imp fun _ along => along.1

end

theorem balanced_of_closed (core : s.registries.tags.IsCore) (owns : s.registries.operators.OwnsAliases)
    (closed : c.Closed) : Balanced s c where
  binary budget _ := balances_of_within fun _ _ done => (staysInside _ budget).binary closed done
  climb budget _ _ _ := balances_of_within fun _ _ done => (staysInside _ budget).climb closed done
  operands budget _ _ _ := balances_of_within fun _ _ done => (staysInside _ budget).operands closed done
  unary budget := balances_of_within fun _ _ done => (staysInside _ budget).unary closed done
  primary budget := balances_of_within fun _ _ done => (staysInside _ budget).primary closed done
  trailers budget _ := balances_of_within fun _ _ done => (staysInside _ budget).trailers closed done
  arguments budget label closer member := by
    obtain ⟨text, rfl⟩ : ∃ text, closer = .exact .punctuation text := by
      rcases List.mem_pair.mp member with rfl | rfl <;> exact ⟨_, rfl⟩
    exact balances_of_within fun _ _ done => (staysInside _ budget).arguments closed done
  items budget _ := balances_of_within fun _ _ done => (staysInside _ budget).items closed done
  expressionTag := balances_of_passes fun _ _ done => by
    obtain ⟨tokens, finish, -, -, passes⟩ := (expressionTag_iff closed).mp done
    exact ⟨_, passes⟩
  loopHeader := balances_of_passes fun _ _ done => by
    rw [loopHeader_eq] at done
    split at done
    · rename_i bracketed
      obtain ⟨⟨found, between⟩, taking, rest⟩ := bind_eq_ok.mp done
      obtain ⟨behind, closing, rest⟩ := bind_eq_ok.mp rest
      obtain ⟨⟨finish, last⟩, ending, ⟨⟩⟩ := bind_eq_ok.mp rest
      have bracket := Cursor.Within.punctuation closed bracketed
      have inside := bracket.behind closed
      have within := bracket.trans (.closed inside (within_loopTargets (inside.enter _ _ _) taking) closing)
      obtain ⟨-, onward⟩ := (tagEnd_iff (within.behind closed)).mp ending
      obtain ⟨used, along, -⟩ := within
      exact ⟨_, along.trans onward⟩
    · obtain ⟨⟨found, between⟩, taking, rest⟩ := bind_eq_ok.mp done
      obtain ⟨⟨finish, last⟩, ending, ⟨⟩⟩ := bind_eq_ok.mp rest
      have within := within_loopTargets closed taking
      obtain ⟨-, onward⟩ := (tagEnd_iff (within.behind closed)).mp ending
      obtain ⟨used, along, -⟩ := within
      exact ⟨_, along.trans onward⟩
  output isStart := balances_of_passes fun _ _ done => by
    obtain ⟨id, known, -⟩ := bind_eq_ok.mp done
    obtain ⟨tokens, finish, value, -, -, passes, -⟩ := (output_iff known closed isStart).mp done
    exact ⟨_, passes⟩
  body budget := balances_of_passes fun _ _ done => by
    obtain ⟨used, passes, -⟩ := (readings_outlined core owns budget).1 _ _ _ closed done
    exact ⟨used, passes⟩
  block budget _ := balances_of_passes fun _ _ done => by
    cases budget with
    | zero =>
        rw [Parse.block] at done
        cases done
    | succ budget =>
        rw [Parse.block] at done
        obtain ⟨⟨trees, last⟩, taking, ⟨⟩⟩ := bind_eq_ok.mp done
        obtain ⟨used, passes, -⟩ := (readings_outlined core owns budget).1 _ _ _ closed taking
        exact ⟨used, passes⟩
  tag budget := balances_of_passes fun _ _ done => by
    obtain ⟨used, passes, -⟩ := tag_outlined core owns (fun smaller _ => (readings_outlined core owns smaller).1)
      (fun smaller _ => (readings_outlined core owns smaller).2) closed done
    exact ⟨used, passes⟩
  branches budget _ _ _ words member := balances_of_passes fun found _ done => by
    have inert : words.Inert := by
      simp only [List.mem_cons, List.not_mem_nil, or_false] at member
      rcases member with rfl | rfl | rfl <;> decide
    obtain ⟨used, passes, -⟩ :=
      (readings_outlined core owns budget).2 _ _ _ _ _ found.1 found.2 _ inert closed done
    exact ⟨used, passes⟩

/-- Readings of a source are balanced, and no fault of the reader ends them: not that something else than the innermost
construct is closed, not that a branch lacks its start or keyword, not that a body meets another token than a text, an
opener or the end. This holds for all registries of core tags, whatever their operators and functions, and whichever tag
stands in for others. -/
theorem source_reading_balanced {extensions : List Extension} (built : Registries.build extensions = .ok r)
    (core : ∀ extension ∈ extensions, ∀ tag ∈ extension.tags, tag ∈ Core.tags) (fallback : Option String)
    {v : Vocabulary} {source : String} {tokens : List Token} (tokenized : Source.tokenize v source = .ok tokens) :
    (∀ c : Cursor, c.tokens <:+ TokenStream.closed tokens → Balanced ⟨r, fallback⟩ c) ∧
      (∀ tree, template ⟨r, fallback⟩ tokens = .ok tree →
        ∃ trees c last, tree = .root trees 1 {} ∧
          body ⟨r, fallback⟩ (Cursor.budget { stream := .ofTokens tokens })
            { stream := .ofTokens tokens, opened := [⟨.text, "template", 1⟩] } = .ok (trees, c) ∧
          c.leave .text "template" c.current.line = .ok last ∧ last.opened = []) ∧
      ∀ e, template ⟨r, fallback⟩ tokens = .error e → e.cause.isInternal = false := by
  have isCore := TagRegistry.isCore_of_tags built core
  have owns := Registries.ownsAliases_operators built
  let start : Cursor := { stream := .ofTokens tokens }
  have framed : start.Framed none := Source.framed_of_tokenize tokenized
  have closed := framed.closed.enter .text "template" 1
  have leaves {trees : List Tree} {c : Cursor}
      (taking : body ⟨r, fallback⟩ start.budget (start.enter .text "template" 1) = .ok (trees, c)) :
      ∃ last, c.leave .text "template" c.current.line = .ok last ∧ last.opened = [] := by
    obtain ⟨used, entered, -⟩ := (readings_outlined isCore owns start.budget).1 _ trees c closed taking
    obtain ⟨inner, rfl, passes⟩ := entered.of_enter
    exact ⟨inner, Cursor.leave_enter .., passes.opened⟩
  refine ⟨fun c suffix => balanced_of_closed isCore owns ?_, fun tree reading => ?_, ?_⟩
  · intro last final
    obtain ⟨front, tokens_eq⟩ := suffix
    refine framed.closed last ?_
    rw [tokens_ofTokens_eq, ← tokens_eq, List.getLast?_append, Option.mem_def.mp final]
    rfl
  · obtain ⟨⟨trees, c⟩, taking, rest⟩ := bind_eq_ok.mp reading
    obtain ⟨-, -, ⟨⟩⟩ := bind_eq_ok.mp rest
    obtain ⟨last, leaving, empty⟩ := leaves taking
    exact ⟨trees, c, last, rfl, taking, leaving, empty⟩
  · have enough : 8 * start.tokens.length + 4 ≤ start.budget := by
      have length := start.later_length
      rw [Cursor.budget]
      omega
    have leads := (guided (s := ⟨r, fallback⟩) isCore owns start.budget).body (framed.enter .text "template" 1) enough
    apply Blameless.bind leads.blameless
    rintro ⟨trees, c⟩ taking
    obtain ⟨last, leaving, -⟩ := leaves taking
    dsimp only
    rw [leaving]
    exact .ok _

/-- Brackets of all kinds, a loop in a choice behind blanks, and a tag without a keyword. -/
def bracketSource : String :=
  "\x7b% switch (a)[1] %\x7d \x7b% case f(x, [1]) %\x7d\x7b% for (k, v in m.keys()) %\x7d\x7b% k %\x7d\x7b% else %\x7d-" ++
    "\x7b% endfor %\x7d\x7b% endswitch %\x7d"

def bracketVocabulary : Vocabulary where
  keywords := ["switch", "case", "for", "else", "endfor", "endswitch"]

theorem bracketSource_balanced :
    ∃ r tokens tree, Registries.build [Core.extension] = .ok r ∧ Source.tokenize bracketVocabulary bracketSource = .ok tokens ∧
      template ⟨r, some "print"⟩ tokens = .ok tree ∧
      ∃ trees c last, tree = .root trees 1 {} ∧
        body ⟨r, some "print"⟩ (Cursor.budget { stream := .ofTokens tokens })
          { stream := .ofTokens tokens, opened := [⟨.text, "template", 1⟩] } = .ok (trees, c) ∧
        c.leave .text "template" c.current.line = .ok last ∧ last.opened = [] := by
  have outcome : (do
      let r ← (Registries.build [Core.extension]).toOption
      let tokens ← (Source.tokenize bracketVocabulary bracketSource).toOption
      let _ ← (template ⟨r, some "print"⟩ tokens).toOption
      return tokens.length) = some 49 := by
    have letters : bracketSource.toList = _ :=
      String.toList_append.trans (congrArg₂ (· ++ ·) String.toList_ofList String.toList_ofList)
    rw [Registries.build_core, Source.tokenize, Source.tokenizeBy, letters]
    decide +kernel
  obtain ⟨r, built, outcome⟩ := Option.bind_eq_some_iff.mp outcome
  obtain ⟨tokens, tokenized, outcome⟩ := Option.bind_eq_some_iff.mp outcome
  obtain ⟨tree, reading, -⟩ := Option.bind_eq_some_iff.mp outcome
  rw [toOption_eq_some] at built tokenized reading
  obtain ⟨-, ends, -⟩ := source_reading_balanced built (by simp [Core.extension]) (some "print") tokenized
  exact ⟨r, tokens, tree, built, tokenized, reading, ends tree reading⟩

end Templating.Parse
