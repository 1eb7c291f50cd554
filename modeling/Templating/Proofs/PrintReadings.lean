import Templating.Proofs.Allocation
import Templating.Proofs.UnterminatedBlocks
import Templating.Proofs.PrintSpellings

/-! # Prints that are spelled differently

Templates that differ only in how they spell their prints are both refused, or both read as the same tree. Each part of a
template is read in the same way in both, and where a body comes to a spelling it reads the same print. The induction is
on the budget of one of the two readings, for bodies and branches at once; the other budget is counted by the tokens.
-/

namespace Templating.Parse

open Source (innerKinds)

variable {s : Setting} {r : Registries} {fallback : Option String} {token word finish : Token}
  {inner one other tokens others used : List Token} {c c' d behind : Cursor} {value tree : Tree} {trees : List Tree}
  {keyword : String} {line lastLine id budget enough : Nat} {α : Type}

theorem resolveTag_of_keyword (isKeyword : c.current.kind = .keyword) :
    resolveTag s c = .ok (id, c') ↔ s.registries.tags.lookup? c.current.value = some id ∧ c' = c.next := by
  unfold resolveTag
  grind

theorem resolveTag_of_standIn (notKeyword : c.current.kind ≠ .keyword) (standsIn : s.fallbackTag = some keyword) :
    resolveTag s c = .ok (id, c') ↔ s.registries.tags.lookup? keyword = some id ∧ c' = c := by
  unfold resolveTag
  grind

theorem printTag_iff : s.printTag line = .ok id ↔ s.registries.tags.lookup? printKeyword = some id := by
  unfold Setting.printTag
  grind

theorem printKeyword_inert (core : s.registries.tags.IsCore) :
    ∀ tag ∈ s.registries.tags.tags, printKeyword ∉ tag.blockKeywords := by
  have inert : ∀ tag ∈ Core.tags, printKeyword ∉ tag.blockKeywords := by decide
  exact fun tag member => inert tag (core tag member)

theorem ownsKeyword_print (core : s.registries.tags.IsCore) (owner : String) :
    s.registries.tags.ownsKeyword owner printKeyword = false := by
  simp only [TagRegistry.ownsKeyword, List.any_eq_false]
  intro tag member
  simp [printKeyword_inert core tag member]

theorem isBlockKeyword_print (core : s.registries.tags.IsCore) :
    s.registries.tags.isBlockKeyword printKeyword = false := by
  simp only [TagRegistry.isBlockKeyword, List.any_eq_false]
  intro tag member
  simp [printKeyword_inert core tag member]

theorem ended_of_body (reading : body s budget c = .ok (trees, c')) : Ended s c' := by
  induction budget generalizing c trees with
  | zero =>
      rw [body] at reading
      cases reading
  | succ budget ih =>
      rw [body] at reading
      split at reading
      · rename_i atEnd
        split at reading
        · cases reading
        · rename_i outside
          cases reading
          exact .inl ⟨atEnd, outside⟩
      · obtain ⟨node, -, rest⟩ := bind_eq_ok.mp reading
        obtain ⟨later, following, ⟨⟩⟩ := bind_eq_ok.mp rest
        exact ih following
      · obtain ⟨node, -, rest⟩ := bind_eq_ok.mp reading
        obtain ⟨later, following, ⟨⟩⟩ := bind_eq_ok.mp rest
        exact ih following
      · rename_i isStart
        dsimp only at reading
        split at reading
        · rename_i isBlockKeyword
          split at reading
          · rename_i owned
            cases reading
            exact .inr ⟨isStart, isBlockKeyword.1, owned⟩
          · cases reading
        · obtain ⟨node, -, rest⟩ := bind_eq_ok.mp reading
          obtain ⟨later, following, ⟨⟩⟩ := bind_eq_ok.mp rest
          exact ih following
      · cases reading

theorem keyword_behind_block (core : s.registries.tags.IsCore) (blocking : block s budget line c = .ok (tree, behind))
    (closed : behind.Closed) (closing : branchKeyword behind = .ok (word, c')) : word.value ≠ printKeyword := by
  obtain ⟨start, isStart, isKeyword, along⟩ := (branchKeyword_iff closed).mp closing
  have ended : Ended s behind := by
    cases budget with
    | zero =>
        rw [block] at blocking
        cases blocking
    | succ budget =>
        rw [block] at blocking
        obtain ⟨⟨trees, last⟩, taking, ⟨⟩⟩ := bind_eq_ok.mp blocking
        exact ended_of_body taking
  rcases ended with ⟨atEnd, -⟩ | ⟨-, -, owned⟩
  · rw [Cursor.current_eq along.tokens, isStart] at atEnd
    cases atEnd
  · intro isPrint
    have isBlock := isBlockKeyword_of_topOwns owned
    rw [Cursor.ahead_one along.tokens, isPrint, isBlockKeyword_print core] at isBlock
    cases isBlock

/-- The tokens up to the first closer are the only ones that can be an expression. -/
theorem same_inner {closing : TokenKind} (unclosed : ∀ token ∈ inner, token.kind ≠ closing)
    (outside : closing ∉ innerKinds) (along : c.Passes (inner ++ [finish]) d) (isEnd : finish.kind = closing)
    (whole : ReadsWhole r used tree) (passes : c.Passes (used ++ [token]) c') (closes : token.kind = closing) :
    used = inner ∧ c' = d := by
  have tokens : used ++ token :: c'.tokens = inner ++ finish :: d.tokens := by
    simpa using passes.tokens.symm.trans along.tokens
  obtain ⟨rfl, rfl⟩ := Cut.aligned tokens isEnd unclosed outside whole.kinds closes
  exact ⟨rfl, passes.skip.trans along.skip.symm⟩

/-- A tag that leads to the tag that prints, with the expression behind the place `behind`. -/
structure LeadsToPrint (s : Setting) (c behind : Cursor) : Prop where
  isStart : c.current.kind = .tagStart
  resolves : ∀ {id c'}, resolveTag s c.next = .ok (id, c') ↔
    s.registries.tags.lookup? printKeyword = some id ∧ c' = behind
  noOther : (c.stream.ahead 1).kind = .keyword → (c.stream.ahead 1).value = printKeyword

namespace LeadsToPrint

theorem start_eq (leads : LeadsToPrint s c behind) : c.expect .tagStart none = .ok (c.current, c.next) :=
  Cursor.expect_of_fits (fits_kind.mpr leads.isStart)

theorem sound (core : s.registries.tags.IsCore) (leads : LeadsToPrint s c behind)
    (reading : tag s budget c = .ok (tree, c')) :
    ∃ id value, s.printTag c.current.line = .ok id ∧ expressionTag s.registries behind = .ok (value, c') ∧
      tree = .tag id [value] c.current.line {} := by
  cases budget with
  | zero =>
      rw [tag] at reading
      cases reading
  | succ budget =>
      rw [tag, leads.start_eq] at reading
      dsimp only [ok_bind] at reading
      obtain ⟨⟨id, found⟩, resolving, rest⟩ := bind_eq_ok.mp reading
      obtain ⟨known, rfl⟩ := leads.resolves.mp resolving
      have known : s.printTag c.current.line = .ok id := printTag_iff.mpr known
      dsimp only at rest
      rw [get?_printTag core known] at rest
      dsimp only at rest
      split at rest
      · cases budget with
        | zero =>
            rw [tagRest] at rest
            cases rest
        | succ budget =>
            rw [tagRest] at rest
            obtain ⟨⟨value, last⟩, taking, ⟨⟩⟩ := bind_eq_ok.mp rest
            exact ⟨id, value, known, taking, rfl⟩
      · cases rest

theorem complete (core : s.registries.tags.IsCore) (leads : LeadsToPrint s c behind)
    (known : s.printTag c.current.line = .ok id) (taking : expressionTag s.registries behind = .ok (value, c')) :
    tag s (budget + 2) c = .ok (.tag id [value] c.current.line {}, c') := by
  have resolving : resolveTag s c.next = .ok (id, behind) := leads.resolves.mpr ⟨printTag_iff.mp known, rfl⟩
  rw [tag, leads.start_eq]
  dsimp only [ok_bind]
  rw [resolving]
  dsimp only [ok_bind]
  rw [get?_printTag core known]
  dsimp only
  rw [if_pos (fitsGrammar_expression rfl taking), tagRest, show Core.printTag.form = .print from rfl]
  dsimp only
  rw [taking]
  rfl

end LeadsToPrint

theorem Spelling.route (spelling : Spelling s.fallbackTag inner line lastLine one) (closed : c.Closed)
    (along : c.Passes one d) :
    c.current.line = line ∧
      ((∃ finish, c.current.kind = .expressionStart ∧ finish.kind = .expressionEnd ∧
          c.next.Passes (inner ++ [finish]) d) ∨
        ∃ behind finish, LeadsToPrint s c behind ∧ behind.Closed ∧ finish.kind = .tagEnd ∧
          behind.Passes (inner ++ [finish]) d) := by
  cases spelling with
  | @output start finish isStart onLine isEnd =>
      obtain ⟨rfl, onward⟩ := along.uncons
      exact ⟨onLine, .inl ⟨finish, isStart, isEnd, onward⟩⟩
  | @print start word finish isStart onLine isKeyword isPrint isEnd =>
      obtain ⟨rfl, overStart⟩ := along.uncons
      obtain ⟨rfl, overWord⟩ := overStart.uncons
      have inside := closed.next (by simp [isStart])
      have behind := (closed.behind inside).next (by simp [isKeyword])
      have second : c.stream.ahead 1 = c.next.current := Cursor.ahead_one along.tokens
      refine ⟨onLine, .inr ⟨c.next.next, finish, ⟨isStart, ?_, ?_⟩, (closed.behind inside).behind behind, isEnd, overWord⟩⟩
      · intro id c'
        rw [resolveTag_of_keyword isKeyword, isPrint]
      · intro _
        rw [second, isPrint]
  | @standIn start finish standsIn noKeyword isStart onLine isEnd =>
      obtain ⟨rfl, overStart⟩ := along.uncons
      have inside := closed.next (by simp [isStart])
      have notKeyword : c.next.current.kind ≠ .keyword := by
        cases inner with
        | nil =>
            rw [(Cursor.Passes.uncons overStart).1, isEnd]
            decide
        | cons first inner =>
            rw [(Cursor.Passes.uncons overStart).1]
            exact noKeyword first rfl
      have second : c.stream.ahead 1 = c.next.current := Cursor.ahead_one inside.tokens
      refine ⟨onLine, .inr ⟨c.next, finish, ⟨isStart, ?_, ?_⟩, closed.behind inside, isEnd, overStart⟩⟩
      · intro id c'
        rw [resolveTag_of_standIn notKeyword standsIn]
      · rw [second]
        exact fun isKeyword => absurd isKeyword notKeyword

section

variable (core : s.registries.tags.IsCore) (spelling : Spelling s.fallbackTag inner line lastLine one)
  (closed : c.Closed) (along : c.Passes one d)

include core spelling closed along

/-- What a body reads from a spelling is the print of the expression. -/
theorem Spelling.sound (unclosed : Unclosed inner) (reading : body s (budget + 1) c = .ok (trees, c')) :
    ∃ id value later, s.printTag line = .ok id ∧ ReadsWhole s.registries inner value ∧
      trees = .tag id [value] line {} :: later ∧ body s budget d = .ok (later, c') := by
  obtain ⟨rfl, ⟨finish, isOutput, isEnd, overInner⟩ | ⟨behind, finish, leads, closedBehind, isEnd, overInner⟩⟩ :=
    spelling.route closed along
  · rw [body, isOutput] at reading
    obtain ⟨⟨node, between⟩, writing, rest⟩ := bind_eq_ok.mp reading
    obtain ⟨⟨later, last⟩, following, ⟨⟩⟩ := bind_eq_ok.mp rest
    obtain ⟨id, known, -⟩ := bind_eq_ok.mp writing
    obtain ⟨used, close, value, whole, closes, passes, rfl⟩ := (output_iff known closed isOutput).mp writing
    obtain ⟨rfl, rfl⟩ := same_inner (fun token member => (unclosed token member).1) (by decide) overInner isEnd whole
      passes.uncons.2 closes
    exact ⟨id, value, later, known, whole, rfl, following⟩
  · have noBlock : ¬((c.stream.ahead 1).kind = .keyword ∧
        s.registries.tags.isBlockKeyword (c.stream.ahead 1).value = true) := by
      rintro ⟨isKeyword, isBlock⟩
      simp [leads.noOther isKeyword, isBlockKeyword_print core] at isBlock
    rw [body, leads.isStart] at reading
    dsimp only at reading
    rw [if_neg noBlock] at reading
    obtain ⟨⟨node, between⟩, tagging, rest⟩ := bind_eq_ok.mp reading
    obtain ⟨⟨later, last⟩, following, ⟨⟩⟩ := bind_eq_ok.mp rest
    obtain ⟨id, value, known, taking, rfl⟩ := leads.sound core tagging
    obtain ⟨used, close, whole, closes, passes⟩ := (expressionTag_iff closedBehind).mp taking
    obtain ⟨rfl, rfl⟩ := same_inner (fun token member => (unclosed token member).2) (by decide) overInner isEnd whole
      passes closes
    exact ⟨id, value, later, known, whole, rfl, following⟩

theorem Spelling.complete (known : s.printTag line = .ok id) (whole : ReadsWhole s.registries inner value) :
    body s (budget + 3) c =
      body s (budget + 2) d >>= fun later => .ok (.tag id [value] line {} :: later.1, later.2) := by
  obtain ⟨rfl, ⟨finish, isOutput, isEnd, overInner⟩ | ⟨behind, finish, leads, closedBehind, isEnd, overInner⟩⟩ :=
    spelling.route closed along
  · have passed := closed.next (by simp [isOutput])
    have writing := (output_iff known closed isOutput).mpr
      ⟨inner, finish, value, whole, isEnd, passed.trans overInner, rfl⟩
    rw [body, isOutput]
    dsimp only
    rw [writing]
    rfl
  · have noBlock : ¬((c.stream.ahead 1).kind = .keyword ∧
        s.registries.tags.isBlockKeyword (c.stream.ahead 1).value = true) := by
      rintro ⟨isKeyword, isBlock⟩
      simp [leads.noOther isKeyword, isBlockKeyword_print core] at isBlock
    have taking := (expressionTag_iff closedBehind).mpr ⟨inner, finish, whole, isEnd, overInner⟩
    rw [body, leads.isStart]
    dsimp only
    rw [if_neg noBlock, leads.complete core known taking]
    rfl

end

/-- What two readings come to: the same token, or two spellings of one print. -/
inductive Meets (fallback : Option String) (c d : Cursor) : Prop
  | token : d.current = c.current → Twin fallback c.next d.next → Meets fallback c d
  | printing {inner one other : List Token} {line lastLine : Nat} {c' d' : Cursor} : Unclosed inner →
      Spelling fallback inner line lastLine one → Spelling fallback inner line lastLine other →
      c.Passes one c' → d.Passes other d' → Twin fallback c' d' → Meets fallback c d

theorem Spelling.rest_ne_nil (spelling : Spelling fallback inner line lastLine one) (closed : c.Closed)
    (tokens : c.tokens = one ++ others) : others ≠ [] := by
  rintro rfl
  obtain ⟨last, isLast, -, inside⟩ := spelling.last
  exact inside (closed last (by simp [tokens, isLast]))

theorem Twin.meets (twin : Twin fallback c d) (inside : c.current.kind ≠ .eof) : Meets fallback c d := by
  have respelled := twin.respelled
  generalize front : c.tokens = tokens at respelled
  generalize back : d.tokens = others at respelled
  cases respelled with
  | nil => exact absurd front c.tokens_ne_nil
  | token token rest =>
      have same : d.current = c.current := (Cursor.current_eq back).trans (Cursor.current_eq front).symm
      have passed := twin.closed.next inside
      have overOther := twin.closed_other.next (same ▸ inside)
      refine .token same ⟨twin.closed.behind passed, twin.closed_other.behind overOther, ?_, twin.opened⟩
      have here := passed.tokens.symm.trans front
      have there := overOther.tokens.symm.trans back
      simp only [List.singleton_append, List.cons.injEq] at here there
      rw [here.2, there.2]
      exact rest
  | printing unclosed one other rest =>
      have along := Cursor.Passes.of_tokens front (one.rest_ne_nil twin.closed front)
      have alongOther := Cursor.Passes.of_tokens back (other.rest_ne_nil twin.closed_other back)
      refine .printing unclosed one other along alongOther
        ⟨twin.closed.behind along, twin.closed_other.behind alongOther, ?_, ?_⟩
      · rw [Cursor.tokens_skip front (one.rest_ne_nil twin.closed front),
          Cursor.tokens_skip back (other.rest_ne_nil twin.closed_other back)]
        exact rest
      · rw [Cursor.opened_skip, Cursor.opened_skip, twin.opened]

theorem Twin.keyword_iff (twin : Twin fallback c d) (P : String → Prop) :
    d.current.kind = .keyword ∧ P d.current.value ↔ c.current.kind = .keyword ∧ P c.current.value := by
  rcases twin.current with same | ⟨opens, opensToo⟩
  · rw [same]
  · have apart {token : Token} (opens : token.Opens) : token.kind ≠ .keyword := by
      rcases opens with kind | kind <;> simp [kind]
    simp [apart opens, apart opensToo]

/-- Bodies that are read with this budget are read in the other template too. -/
def BodyRetraced (s : Setting) (budget : Nat) : Prop :=
  ∀ c d found enough, Twin s.fallbackTag c d → body s budget c = .ok found → 8 * d.tokens.length + 8 ≤ enough →
    Retraces s.fallbackTag (d.tokens.length + 1) found (body s enough d)

/-- So are branches. -/
def BranchesRetraced (s : Setting) (budget : Nat) : Prop :=
  ∀ definition hasLast c d found enough, ∀ words ∈ [ifWords, forWords, switchWords], Twin s.fallbackTag c d →
    branches s budget definition words hasLast c = .ok found → 8 * d.tokens.length + 8 ≤ enough →
    Retraces s.fallbackTag d.tokens.length found (branches s enough definition words hasLast d)

section

variable {definition : TagDefinition} {words : BranchWords} {hasLast : Bool} (twin : Twin s.fallbackTag c d)

include twin

theorem block_retraced (bodies : ∀ smaller < budget, BodyRetraced s smaller) {found : Tree × Cursor}
    (reading : block s budget line c = .ok found) (sufficient : 8 * d.tokens.length + 9 ≤ enough) :
    Retraces s.fallbackTag (d.tokens.length + 1) found (block s enough line d) := by
  obtain ⟨enough, rfl⟩ : ∃ more, enough = more + 1 := ⟨enough - 1, by omega⟩
  cases budget with
  | zero =>
      rw [block] at reading
      cases reading
  | succ budget =>
      rw [block] at reading ⊢
      obtain ⟨taken, taking, ⟨⟩⟩ := bind_eq_ok.mp reading
      exact (bodies budget (Nat.lt_succ_self _) c d taken enough twin taking (by omega)).map
        fun children => Tree.block children line {}

theorem divided_retraced (bodies : ∀ smaller < budget, BodyRetraced s smaller) (rests : BranchesRetraced s budget)
    (known : words ∈ [ifWords, forWords, switchWords]) {first : Tree × Cursor} {found : (List Tree × Bool) × Cursor}
    (blocking : block s budget line c = .ok first)
    (branching : branches s budget definition words hasLast first.2 = .ok found)
    (sufficient : 8 * d.tokens.length + 9 ≤ enough) (result : Tree → List Tree × Bool → α) :
    Retraces s.fallbackTag d.tokens.length (result first.1 found.1, found.2)
      (block s enough line d >>= fun first => branches s enough definition words hasLast first.2 >>= fun later =>
        .ok (result first.1 later.1, later.2)) := by
  apply (block_retraced twin bodies blocking sufficient).bind
  intro d' behind shorter
  exact ((rests definition hasLast first.2 d' found enough words known behind branching (by omega)).map
    (result first.1)).mono (by omega)

theorem branches_retraced (bodies : ∀ smaller < budget, BodyRetraced s smaller)
    (rests : ∀ smaller < budget, BranchesRetraced s smaller) (known : words ∈ [ifWords, forWords, switchWords])
    {found : (List Tree × Bool) × Cursor} (reading : branches s budget definition words hasLast c = .ok found)
    (sufficient : 8 * d.tokens.length + 8 ≤ enough) :
    Retraces s.fallbackTag d.tokens.length found (branches s enough definition words hasLast d) := by
  have inert : ∀ words ∈ [ifWords, forWords, switchWords],
      words.test ≠ some printKeyword ∧ words.last ≠ printKeyword ∧ words.ending ≠ printKeyword := by decide
  obtain ⟨noTest, notLast, notEnding⟩ := inert words known
  obtain ⟨enough, rfl⟩ : ∃ more, enough = more + 1 := ⟨enough - 1, by omega⟩
  cases budget with
  | zero =>
      rw [branches] at reading
      cases reading
  | succ budget =>
      have smaller : ∀ less < budget, BodyRetraced s less := fun less below => bodies less (by omega)
      have rests : BranchesRetraced s budget := rests budget (Nat.lt_succ_self _)
      rw [branches] at reading ⊢
      obtain ⟨⟨word, between⟩, keyword, rest⟩ := bind_eq_ok.mp reading
      have other : word.value ≠ printKeyword := by
        intro isPrint
        simp [isPrint, noTest, notLast, notEnding] at rest
      apply (branchKeyword_retraced twin keyword other).bind
      intro afterWord twin shorter
      dsimp only at rest twin ⊢
      split at rest
      · rename_i isTest
        obtain ⟨⟨value, afterValue⟩, taking, rest⟩ := bind_eq_ok.mp rest
        obtain ⟨first, blocking, rest⟩ := bind_eq_ok.mp rest
        obtain ⟨later, branching, ⟨⟩⟩ := bind_eq_ok.mp rest
        rw [if_pos isTest]
        apply (expressionTag_retraced twin taking).bind
        intro afterHead twin less
        exact (divided_retraced twin smaller rests known blocking branching (by omega) fun content found =>
          (value :: content :: found.1, found.2)).mono (by omega)
      rename_i notTest
      rw [if_neg notTest]
      split at rest
      · rename_i isLast
        obtain ⟨⟨finish, afterEnd⟩, ending, rest⟩ := bind_eq_ok.mp rest
        obtain ⟨first, blocking, rest⟩ := bind_eq_ok.mp rest
        obtain ⟨later, branching, ⟨⟩⟩ := bind_eq_ok.mp rest
        rw [if_pos isLast]
        apply (tagEnd_retraced twin ending).bind
        intro afterHead twin less
        exact (divided_retraced twin smaller rests known blocking branching (by omega) fun content found =>
          (content :: found.1, found.2)).mono (by omega)
      rename_i notLast
      rw [if_neg notLast]
      split at rest
      · rename_i isEnding
        obtain ⟨⟨finish, afterEnd⟩, ending, rest⟩ := bind_eq_ok.mp rest
        obtain ⟨last, closing, ⟨⟩⟩ := bind_eq_ok.mp rest
        rw [if_pos isEnding]
        apply (tagEnd_retraced twin ending).bind
        intro afterTag twin less
        obtain ⟨final, closed, behind, same⟩ := leave_retraced twin finish.line closing
        exact ⟨final, by simp [closeBlock, closed], behind, by rw [same]; omega⟩
      · cases rest

end

-- Behind its keyword a tag is read by its form.

section

variable {definition : TagDefinition} {found : Tree × Cursor} (twin : Twin s.fallbackTag c d)

theorem Twin.openBlock {fallback : Option String} (twin : Twin fallback c d) (definition : TagDefinition) (line : Nat) :
    Twin fallback (openBlock definition line c) (openBlock definition line d) :=
  twin.enter _ _ _

theorem length_openBlock (definition : TagDefinition) (line : Nat) (c : Cursor) :
    (openBlock definition line c).tokens.length = c.tokens.length :=
  rfl

theorem tagRest_statement (form : definition.form = .print ∨ definition.form = .inclusion) :
    tagRest s (budget + 1) id definition line c =
      expressionTag s.registries c >>= fun found => .ok (Tree.tag id [found.1] line {}, found.2) := by
  rcases form with form | form <;> (rw [tagRest, form]; rfl)

include twin

theorem statement_retraced (form : definition.form = .print ∨ definition.form = .inclusion)
    (single : definition.grammar = [[.expression]])
    (reading : tagRest s (budget + 1) id definition line c = .ok found) :
    fitsGrammar definition d = true ∧
      Retraces s.fallbackTag d.tokens.length found (tagRest s (enough + 1) id definition line d) := by
  rw [tagRest_statement form] at reading ⊢
  obtain ⟨⟨value, behind⟩, taking, ⟨⟩⟩ := bind_eq_ok.mp reading
  have again := expressionTag_retraced twin taking
  constructor
  · obtain ⟨d', valued, -⟩ := again
    exact fitsGrammar_expression single valued
  · exact again.map fun value => Tree.tag id [value] line {}

theorem conditional_retraced (bodies : ∀ smaller < budget, BodyRetraced s smaller) (rests : BranchesRetraced s budget)
    (reading : tagRest s (budget + 1) id Core.ifTag line c = .ok found)
    (sufficient : 8 * d.tokens.length + 9 ≤ enough) :
    fitsGrammar Core.ifTag d = true ∧
      Retraces s.fallbackTag d.tokens.length found (tagRest s (enough + 1) id Core.ifTag line d) := by
  rw [tagRest] at reading
  obtain ⟨⟨condition, behind⟩, taking, rest⟩ := bind_eq_ok.mp reading
  obtain ⟨first, blocking, rest⟩ := bind_eq_ok.mp rest
  obtain ⟨later, branching, ⟨⟩⟩ := bind_eq_ok.mp rest
  have again := expressionTag_retraced twin taking
  constructor
  · obtain ⟨d', valued, -⟩ := again
    exact fitsGrammar_expression rfl valued
  · rw [tagRest, show Core.ifTag.form = .conditional from rfl]
    apply again.bind
    intro d' twin shorter
    have length := length_openBlock Core.ifTag line d'
    exact (divided_retraced (twin.openBlock Core.ifTag line) bodies rests (by simp) blocking branching (by omega) fun first found =>
      Tree.tag id (condition :: first :: found.1) line (Annotations.set {} "has_else" (.bool found.2))).mono (by omega)

theorem loop_retraced (bodies : ∀ smaller < budget, BodyRetraced s smaller) (rests : BranchesRetraced s budget)
    (fits : fitsGrammar Core.forTag c = true) (reading : tagRest s (budget + 1) id Core.forTag line c = .ok found)
    (sufficient : 8 * d.tokens.length + 9 ≤ enough) :
    fitsGrammar Core.forTag d = true ∧
      Retraces s.fallbackTag d.tokens.length found (tagRest s (enough + 1) id Core.forTag line d) := by
  rw [tagRest] at reading
  obtain ⟨⟨targets, behind⟩, taking, rest⟩ := bind_eq_ok.mp reading
  obtain ⟨first, blocking, rest⟩ := bind_eq_ok.mp rest
  obtain ⟨later, branching, ⟨⟩⟩ := bind_eq_ok.mp rest
  obtain ⟨fits, again⟩ := loopHeader_retraced twin fits taking
  refine ⟨fits, ?_⟩
  rw [tagRest, show Core.forTag.form = .loop from rfl]
  apply again.bind
  intro d' twin shorter
  have length := length_openBlock Core.forTag line d'
  exact (divided_retraced (twin.openBlock Core.forTag line) bodies rests (by simp) blocking branching (by omega) fun first found =>
    Tree.tag id (targets.2 :: first :: found.1) line (targets.1.notes found.2)).mono (by omega)

theorem switch_retraced (core : s.registries.tags.IsCore) (rests : BranchesRetraced s budget)
    (reading : tagRest s (budget + 1) id Core.switchTag line c = .ok found)
    (sufficient : 8 * d.tokens.length + 9 ≤ enough) :
    fitsGrammar Core.switchTag d = true ∧
      Retraces s.fallbackTag d.tokens.length found (tagRest s (enough + 1) id Core.switchTag line d) := by
  rw [tagRest] at reading
  obtain ⟨⟨subject, behind⟩, taking, rest⟩ := bind_eq_ok.mp reading
  obtain ⟨afterBlanks, skipping, rest⟩ := bind_eq_ok.mp rest
  obtain ⟨later, branching, ⟨⟩⟩ := bind_eq_ok.mp rest
  have again := expressionTag_retraced twin taking
  constructor
  · obtain ⟨d', valued, -⟩ := again
    exact fitsGrammar_expression rfl valued
  · rw [tagRest, show Core.switchTag.form = .switch from rfl]
    apply again.bind
    intro d' twin shorter
    have length := length_openBlock Core.switchTag line d'
    obtain ⟨d'', skipped, twin, fewer⟩ :=
      firstBranch_retraced (twin.openBlock Core.switchTag line) (ownsKeyword_print core "switch") skipping
    dsimp only
    rw [skipped]
    exact ((rests Core.switchTag false afterBlanks d'' later enough switchWords (by simp) twin branching (by omega)).map
      fun found => Tree.tag id (subject :: found.1) line (Annotations.set {} "has_default" (.bool found.2))).mono
      (by omega)

theorem nested_retraced (core : s.registries.tags.IsCore) (bodies : ∀ smaller < budget, BodyRetraced s smaller)
    (fits : fitsGrammar Core.templateTag c = true)
    (reading : tagRest s (budget + 1) id Core.templateTag line c = .ok found)
    (sufficient : 8 * d.tokens.length + 9 ≤ enough) :
    fitsGrammar Core.templateTag d = true ∧
      Retraces s.fallbackTag d.tokens.length found (tagRest s (enough + 1) id Core.templateTag line d) := by
  rw [tagRest] at reading
  obtain ⟨⟨finish, afterHead⟩, ending, rest⟩ := bind_eq_ok.mp reading
  obtain ⟨⟨content, afterBody⟩, blocking, rest⟩ := bind_eq_ok.mp rest
  obtain ⟨⟨closer, afterCloser⟩, keyword, rest⟩ := bind_eq_ok.mp rest
  obtain ⟨⟨close, afterEnd⟩, finishing, rest⟩ := bind_eq_ok.mp rest
  obtain ⟨behind, closing, ⟨⟩⟩ := bind_eq_ok.mp rest
  obtain ⟨fits, sameName, again⟩ := nestedHead_retraced twin fits ending
  refine ⟨fits, ?_⟩
  rw [tagRest, show Core.templateTag.form = .nested from rfl]
  dsimp only
  rw [sameName]
  apply again.bind
  intro d' twin shorter
  have length := length_openBlock Core.templateTag line d'
  apply (block_retraced (twin.openBlock Core.templateTag line) bodies blocking (by omega)).bind
  intro afterContent twin fewer
  apply (branchKeyword_retraced twin keyword (keyword_behind_block core blocking twin.closed keyword)).bind
  intro afterWord twin less
  apply (tagEnd_retraced twin finishing).bind
  intro afterTag twin least
  obtain ⟨final, closed, twin, same⟩ := leave_retraced twin close.line closing
  exact ⟨final, by simp [closeBlock, closed], twin, by rw [same]; omega⟩

end

section

variable (core : s.registries.tags.IsCore)

include core

theorem tagRest_retraced {definition : TagDefinition} (twin : Twin s.fallbackTag c d)
    (bodies : ∀ smaller < budget, BodyRetraced s smaller) (rests : BranchesRetraced s budget)
    (numbered : s.registries.tags.get? id = some definition) (fits : fitsGrammar definition c = true)
    {found : Tree × Cursor} (reading : tagRest s (budget + 1) id definition line c = .ok found)
    (sufficient : 8 * d.tokens.length + 10 ≤ enough) :
    fitsGrammar definition d = true ∧
      Retraces s.fallbackTag d.tokens.length found (tagRest s enough id definition line d) := by
  have isCore := coreTag?_of_get? core numbered
  obtain ⟨enough, rfl⟩ : ∃ more, enough = more + 1 := ⟨enough - 1, by omega⟩
  have sufficient : 8 * d.tokens.length + 9 ≤ enough := by omega
  cases form : definition.form with
  | print =>
      rw [form] at isCore
      obtain rfl := Option.some.inj isCore
      exact statement_retraced twin (.inl rfl) rfl reading
  | inclusion =>
      rw [form] at isCore
      obtain rfl := Option.some.inj isCore
      exact statement_retraced twin (.inr rfl) rfl reading
  | assignment =>
      rw [form] at isCore
      obtain rfl := Option.some.inj isCore
      exact assignment_retraced twin enough fits reading
  | conditional =>
      rw [form] at isCore
      obtain rfl := Option.some.inj isCore
      exact conditional_retraced twin bodies rests reading sufficient
  | loop =>
      rw [form] at isCore
      obtain rfl := Option.some.inj isCore
      exact loop_retraced twin bodies rests fits reading sufficient
  | switch =>
      rw [form] at isCore
      obtain rfl := Option.some.inj isCore
      exact switch_retraced twin core rests reading sufficient
  | nested =>
      rw [form] at isCore
      obtain rfl := Option.some.inj isCore
      exact nested_retraced twin core bodies fits reading sufficient
  | custom takesExpression =>
      rw [form] at isCore
      cases isCore

omit core in
theorem resolveTag_retraced (twin : Twin s.fallbackTag c d) (reading : resolveTag s c = .ok (id, c')) :
    Retraces s.fallbackTag (d.tokens.length + 1) (id, c') (resolveTag s d) := by
  have sameRole := twin.keyword_iff fun _ => True
  simp only [and_true] at sameRole
  by_cases isKeyword : c.current.kind = .keyword
  · obtain ⟨known, rfl⟩ := (resolveTag_of_keyword isKeyword).mp reading
    have plain : ¬c.current.Opens := not_opens_of_kind isKeyword (by decide) (by decide)
    have passed := twin.closed.next (by simp [isKeyword])
    obtain ⟨d', onward, behind⟩ := twin.passes passed (by simpa using plain)
    refine ⟨d', (resolveTag_of_keyword (sameRole.mpr isKeyword)).mpr ⟨?_, onward.uncons.2.eq_of_nil⟩, behind, ?_⟩
    · rwa [twin.same_current plain]
    · rw [onward.length]
      omega
  · cases standsIn : s.fallbackTag with
    | none =>
        simp [resolveTag, isKeyword, standsIn] at reading
        split at reading <;> cases reading
    | some keyword =>
        obtain ⟨known, rfl⟩ := (resolveTag_of_standIn isKeyword standsIn).mp reading
        have again := (resolveTag_of_standIn (fun isOther => isKeyword (sameRole.mp isOther)) standsIn).mpr ⟨known, rfl⟩
        exact ⟨d, again, standsIn ▸ twin, Nat.lt_succ_self _⟩

omit core in
theorem output_retraced (twin : Twin s.fallbackTag c d) (same : d.current = c.current)
    (behind : Twin s.fallbackTag c.next d.next) (isOutput : c.current.kind = .expressionStart)
    (reading : output s c = .ok (tree, c')) :
    Retraces s.fallbackTag d.tokens.length (tree, c') (output s d) := by
  obtain ⟨id, known, -⟩ := bind_eq_ok.mp reading
  obtain ⟨tokens, finish, value, whole, isEnd, along, rfl⟩ := (output_iff known twin.closed isOutput).mp reading
  obtain ⟨d', onward, final⟩ := behind.passes along.uncons.2 (not_opens_up_to whole.kinds (.inr isEnd))
  have overStart := twin.closed_other.next (c := d) (by simp [same, isOutput])
  have whole' := overStart.trans onward
  rw [← same] at known isOutput ⊢
  exact ⟨d', (output_iff known twin.closed_other isOutput).mpr ⟨tokens, finish, value, whole, isEnd, whole', rfl⟩, final,
    by simp [whole'.length]⟩

theorem tag_retraced (bodies : ∀ smaller < budget, BodyRetraced s smaller)
    (rests : ∀ smaller < budget, BranchesRetraced s smaller) (closed : d.Closed) (same : d.current = c.current)
    (twin : Twin s.fallbackTag c.next d.next) {found : Tree × Cursor} (reading : tag s budget c = .ok found)
    (sufficient : 8 * d.tokens.length + 3 ≤ enough) :
    Retraces s.fallbackTag d.tokens.length found (tag s enough d) := by
  obtain ⟨enough, rfl⟩ : ∃ more, enough = more + 1 := ⟨enough - 1, by omega⟩
  cases budget with
  | zero =>
      rw [tag] at reading
      cases reading
  | succ budget =>
      rw [tag] at reading
      obtain ⟨⟨start, afterStart⟩, opening, onward⟩ := bind_eq_ok.mp reading
      obtain ⟨⟨id, behind⟩, resolving, rest⟩ := bind_eq_ok.mp onward
      obtain ⟨isStart, rfl, rfl⟩ := Cursor.fits_of_expect opening
      rw [← same] at isStart
      have passed := (closed.next (by simp [fits_kind.mp isStart])).length
      rw [List.length_singleton] at passed
      obtain ⟨d', resolved, twin, shorter⟩ := resolveTag_retraced twin resolving
      rw [tag, Cursor.expect_of_fits isStart]
      dsimp only [ok_bind] at rest ⊢
      rw [resolved]
      dsimp only [ok_bind]
      split at rest
      · cases rest
      · rename_i definition numbered
        split at rest
        · rename_i fits
          cases budget with
          | zero =>
              rw [tagRest] at rest
              cases rest
          | succ budget =>
              have room : 8 * d'.tokens.length + 10 ≤ enough := by omega
              obtain ⟨fits, again⟩ := tagRest_retraced core twin (fun less below => bodies less (by omega))
                (rests budget (by omega)) numbered fits rest room
              rw [if_pos fits, same]
              exact again.mono (by omega)
        · cases rest

omit core in
theorem later_retraced (rest : BodyRetraced s budget) {node : Tree} {later : List Tree} {last : Cursor} {bound : Nat}
    (twin : Twin s.fallbackTag c d) (shorter : d.tokens.length < bound) (following : body s budget c = .ok (later, last))
    (room : 8 * bound ≤ enough) :
    Retraces s.fallbackTag (bound + 1) (node :: later, last)
      (body s enough d >>= fun found => .ok (node :: found.1, found.2)) :=
  ((rest c d (later, last) enough twin following (by omega)).map (node :: ·)).mono (by omega)

theorem body_retraced_token (bodies : ∀ smaller ≤ budget, BodyRetraced s smaller)
    (rests : ∀ smaller ≤ budget, BranchesRetraced s smaller) (twin : Twin s.fallbackTag c d)
    (inside : c.current.kind ≠ .eof) (same : d.current = c.current) (behind : Twin s.fallbackTag c.next d.next)
    {found : List Tree × Cursor} (reading : body s (budget + 1) c = .ok found)
    (sufficient : 8 * d.tokens.length + 3 ≤ enough) :
    Retraces s.fallbackTag (d.tokens.length + 1) found (body s (enough + 1) d) := by
  have passed := twin.closed.next inside
  have overOther := twin.closed_other.next (same ▸ inside)
  have length : d.tokens.length = 1 + d.next.tokens.length := overOther.length
  have rest : BodyRetraced s budget := bodies budget (Nat.le_refl _)
  rw [body] at reading
  rw [body, same]
  split at reading
  · rename_i isEnd
    exact absurd isEnd inside
  · obtain ⟨node, printing, onward⟩ := bind_eq_ok.mp reading
    obtain ⟨⟨later, last⟩, following, ⟨⟩⟩ := bind_eq_ok.mp onward
    rw [printing]
    exact later_retraced rest behind (by omega) following (by omega)
  · rename_i isOutput
    obtain ⟨⟨node, between⟩, writing, onward⟩ := bind_eq_ok.mp reading
    obtain ⟨⟨later, last⟩, following, ⟨⟩⟩ := bind_eq_ok.mp onward
    obtain ⟨d', again, twin, shorter⟩ := output_retraced twin same behind isOutput writing
    rw [again]
    exact later_retraced rest twin shorter following (by omega)
  · have ahead : c.stream.ahead 1 = c.next.current := Cursor.ahead_one passed.tokens
    have aheadOther : d.stream.ahead 1 = d.next.current := Cursor.ahead_one overOther.tokens
    have sameRole := behind.keyword_iff fun word => s.registries.tags.isBlockKeyword word = true
    dsimp only at reading ⊢
    rw [ahead] at reading
    rw [aheadOther]
    split at reading
    · rename_i isBlockKeyword
      have plain : ¬c.next.current.Opens := not_opens_of_kind isBlockKeyword.1 (by decide) (by decide)
      rw [if_pos (sameRole.mpr isBlockKeyword), behind.same_current plain]
      split at reading
      · rename_i owned
        cases reading
        rw [Setting.topOwns, ← twin.opened, ← Setting.topOwns] at owned
        rw [if_pos owned]
        exact ⟨d, rfl, twin, Nat.lt_succ_self _⟩
      · cases reading
    · rename_i noBlock
      obtain ⟨⟨node, between⟩, tagging, onward⟩ := bind_eq_ok.mp reading
      obtain ⟨⟨later, last⟩, following, ⟨⟩⟩ := bind_eq_ok.mp onward
      rw [if_neg (fun both => noBlock (sameRole.mp both))]
      obtain ⟨d', again, twin, shorter⟩ := tag_retraced core (fun less below => bodies less (Nat.le_of_lt below))
        (fun less below => rests less (Nat.le_of_lt below)) twin.closed_other same behind tagging sufficient
      rw [again]
      exact later_retraced rest twin shorter following (by omega)
  · cases reading

theorem body_retraced (bodies : ∀ smaller < budget, BodyRetraced s smaller)
    (rests : ∀ smaller < budget, BranchesRetraced s smaller) : BodyRetraced s budget := by
  intro c d found enough twin reading sufficient
  obtain ⟨enough, rfl⟩ : ∃ more, enough = more + 3 := ⟨enough - 3, by omega⟩
  cases budget with
  | zero =>
      rw [body] at reading
      cases reading
  | succ budget =>
      by_cases atEnd : c.current.kind = .eof
      · have same : d.current = c.current := twin.same_current (not_opens_of_kind atEnd (by decide) (by decide))
        rw [body, atEnd] at reading
        rw [body, same, atEnd, twin.opened]
        dsimp only at reading ⊢
        split at reading
        · cases reading
        · cases reading
          exact ⟨d, rfl, twin, Nat.lt_succ_self _⟩
      · cases twin.meets atEnd with
        | token same behind =>
            exact body_retraced_token core (fun less below => bodies less (Nat.lt_succ_of_le below))
              (fun less below => rests less (Nat.lt_succ_of_le below)) twin atEnd same behind reading (by omega)
        | printing unclosed one other along alongOther behind =>
            obtain ⟨id, value, later, known, whole, printed, following⟩ :=
              one.sound core twin.closed along unclosed reading
            obtain ⟨first, rest, shape, -⟩ := other.opens
            have length := alongOther.length
            rw [shape, List.length_cons] at length
            rw [other.complete core twin.closed_other alongOther known whole,
              show found = (.tag id [value] _ {} :: later, found.2) from Prod.ext printed rfl]
            exact later_retraced (bodies budget (Nat.lt_succ_self _)) behind (by omega) following (by omega)

theorem readings_retraced (budget : Nat) : BodyRetraced s budget ∧ BranchesRetraced s budget := by
  induction budget using Nat.strong_induction_on with
  | _ budget ih =>
      have bodies : ∀ smaller < budget, BodyRetraced s smaller := fun smaller below => (ih smaller below).1
      have rests : ∀ smaller < budget, BranchesRetraced s smaller := fun smaller below => (ih smaller below).2
      refine ⟨body_retraced core bodies rests, ?_⟩
      intro definition hasLast c d found enough words known twin reading sufficient
      exact branches_retraced twin bodies rests known reading sufficient

end

theorem template_retraced (core : s.registries.tags.IsCore) (respelled : Respelled s.fallbackTag tokens others)
    (reading : template s tokens = .ok tree) : template s others = .ok tree := by
  let one : Cursor := { stream := .ofTokens tokens }
  let other : Cursor := { stream := .ofTokens others }
  have same : Respelled s.fallbackTag one.tokens other.tokens := by
    rw [tokens_ofTokens_eq, tokens_ofTokens_eq]
    exact respelled.closed
  have twin : Twin s.fallbackTag one other := ⟨closed_stream _, closed_stream _, same, rfl⟩
  obtain ⟨⟨trees, behind⟩, taking, onward⟩ := bind_eq_ok.mp reading
  obtain ⟨last, leaving, ⟨⟩⟩ := bind_eq_ok.mp onward
  have enough : 8 * other.tokens.length + 8 ≤ other.budget := by
    rw [Cursor.budget, ← other.later_length]
    omega
  obtain ⟨behindOther, again, twin, -⟩ :=
    (readings_retraced core one.budget).1 _ _ (trees, behind) other.budget (twin.enter .text "template" 1) taking enough
  obtain ⟨lastOther, left, -⟩ := leave_retraced twin behindOther.current.line leaving
  show body s other.budget (other.enter .text "template" 1) >>= _ = _
  rw [again]
  dsimp only [ok_bind]
  rw [left]
  rfl

/-- The three ways to print an expression are one. Wherever tokens print an expression in a template, they can be replaced
by any other spelling of that print on the same lines: the template is read as the same tree and into the same arena, with the
same nodes in the same order, or it is refused in both spellings. This holds for all registries of core tags, whatever
their operators and functions, for all tokens of the expression, whether or not they are one, and for all tokens around
them. -/
theorem print_spellings_read_alike (core : s.registries.tags.IsCore) (unclosed : Unclosed inner)
    (spelling : Spelling s.fallbackTag inner line lastLine one)
    (otherSpelling : Spelling s.fallbackTag inner line lastLine other) (front back : List Token) :
    (∀ tree, template s (front ++ one ++ back) = .ok tree ↔ template s (front ++ other ++ back) = .ok tree) ∧
      ∀ filled, arena s (front ++ one ++ back) = .ok filled ↔ arena s (front ++ other ++ back) = .ok filled := by
  have respelled : Respelled s.fallbackTag (front ++ one ++ back) (front ++ other ++ back) := by
    rw [List.append_assoc, List.append_assoc]
    exact (Respelled.refl front).append (.printing unclosed spelling otherSpelling (.refl back))
  have alike : ∀ tree, template s (front ++ one ++ back) = .ok tree ↔ template s (front ++ other ++ back) = .ok tree :=
    fun tree => ⟨template_retraced core respelled, template_retraced core respelled.symm⟩
  refine ⟨alike, fun filled => ?_⟩
  simp only [arena_eq_ok_iff, alike]

-- A sum in a condition, printed by an output and by a tag without a keyword.

def sumTokens : List Token :=
  [⟨.identifier, "x", 2⟩, ⟨.operator, "+", 2⟩, ⟨.literal, "1", 3⟩]

def conditionFront : List Token :=
  [⟨.tagStart, "\x7b%", 1⟩, ⟨.keyword, "if", 1⟩, ⟨.identifier, "x", 1⟩, ⟨.tagEnd, "%\x7d", 1⟩, ⟨.text, "sum: ", 1⟩]

def conditionBack : List Token :=
  [⟨.tagStart, "\x7b%", 3⟩, ⟨.keyword, "endif", 3⟩, ⟨.tagEnd, "%\x7d", 3⟩]

def sumOutput : List Token :=
  ⟨.expressionStart, "\x7b\x7b", 2⟩ :: sumTokens ++ [⟨.expressionEnd, "\x7d\x7d", 3⟩]

def sumStandIn : List Token :=
  ⟨.tagStart, "\x7b%", 2⟩ :: sumTokens ++ [⟨.tagEnd, "%\x7d", 3⟩]

theorem sum_spellings_read_alike :
    ∃ r tree, Registries.build [Core.extension] = .ok r ∧
      template ⟨r, some "print"⟩ (conditionFront ++ sumOutput ++ conditionBack) = .ok tree ∧
      template ⟨r, some "print"⟩ (conditionFront ++ sumStandIn ++ conditionBack) = .ok tree ∧
      arena ⟨r, some "print"⟩ (conditionFront ++ sumStandIn ++ conditionBack) = .ok (.ofTree tree) := by
  have built : Registries.build [Core.extension] = .ok Core.registries := Registries.build_core []
  have isCore : TagRegistry.IsCore ⟨Core.tags⟩ := fun tag member => member
  have isRead : (template ⟨Core.registries, some "print"⟩
      (conditionFront ++ sumOutput ++ conditionBack)).toOption.isSome = true := by decide +kernel
  obtain ⟨tree, reading⟩ := Option.isSome_iff_exists.mp isRead
  have reading := toOption_eq_some.mp reading
  have unclosed : ∀ token ∈ sumTokens, token.kind ≠ .expressionEnd ∧ token.kind ≠ .tagEnd := by decide
  have asOutput : Spelling (some printKeyword) sumTokens 2 3 sumOutput := .output rfl rfl rfl rfl
  have asStandIn : Spelling (some printKeyword) sumTokens 2 3 sumStandIn := .standIn rfl (by decide) rfl rfl rfl rfl
  have alike := print_spellings_read_alike (s := ⟨Core.registries, some printKeyword⟩) isCore unclosed asOutput asStandIn
    conditionFront conditionBack
  exact ⟨Core.registries, tree, built, reading, (alike.1 tree).mp reading,
    (alike.2 _).mp (arena_eq_ok_iff.mpr ⟨tree, reading, rfl⟩)⟩

end Templating.Parse
