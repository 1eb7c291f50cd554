import Templating.Proofs.Cursor
import Templating.Proofs.Aliases
import Templating.Parse.Expression

/-! # What an expression is read from

Reading an expression takes some tokens and looks no further than the token behind them. So the same
tokens give the same expression wherever they stand, whatever is open there, as long as a token follows
at which expressions end. The budget of a reading is enough for the tokens it takes.
-/

namespace Templating.Parse

/-- A token at which expressions end: it is no operator, and nothing behind an operand starts with it. -/
def Ends (token : Token) : Prop :=
  token.kind ≠ .operator ∧ ∀ text ∈ ["(", "[", "."], token.isPunctuation text = false

theorem Ends.of_kind {token : Token} (notOperator : token.kind ≠ .operator)
    (notPunctuation : token.kind ≠ .punctuation) : Ends token := by
  refine ⟨notOperator, fun text _ => ?_⟩
  rw [Token.isPunctuation, beq_eq_false_iff_ne.mpr notPunctuation, Bool.false_and]

theorem Ends.of_punctuation {token : Token} {text : String} (isText : token.isPunctuation text = true)
    (closes : text ∉ ["(", "[", "."]) : Ends token := by
  obtain ⟨isPunctuation, value⟩ := Token.isPunctuation_iff.mp isText
  refine ⟨by rw [isPunctuation]; decide, fun other opens => ?_⟩
  have different : text ≠ other := fun same => closes (same ▸ opens)
  rw [Token.isPunctuation, value, beq_eq_false_iff_ne.mpr different, Bool.and_false]

/-- Tokens that are the same up to a token at which expressions end. -/
def SameAhead (first second : List Token) : Prop :=
  ∃ shared here before there after, first = shared ++ here :: before ∧ second = shared ++ there :: after ∧
    Ends here ∧ Ends there

namespace SameAhead

variable {first second : List Token} {c d c' d' : Cursor} {used : List Token}

theorem append (same : SameAhead first second) (shared : List Token) :
    SameAhead (shared ++ first) (shared ++ second) := by
  obtain ⟨more, here, before, there, after, rfl, rfl, ends⟩ := same
  exact ⟨shared ++ more, here, before, there, after, by simp, by simp, ends⟩

theorem before (same : SameAhead c'.tokens d'.tokens) (here : c.Passes used c') (there : d.Passes used d') :
    SameAhead c.tokens d.tokens := by
  rw [here.tokens, there.tokens]
  exact same.append used

theorem longestMatch (same : SameAhead first second) (trie : AliasTrie) :
    trie.longestMatch first = trie.longestMatch second := by
  obtain ⟨shared, here, before, there, after, rfl, rfl, ends, stops⟩ := same
  exact AliasTrie.longestMatch_append ends.1 stops.1 trie shared before after

theorem current (same : SameAhead c.tokens d.tokens) :
    c.current = d.current ∨ Ends c.current ∧ Ends d.current := by
  obtain ⟨shared, here, before, there, after, first, second, ends, stops⟩ := same
  cases shared with
  | nil =>
      rw [Cursor.current_eq first, Cursor.current_eq second]
      exact .inr ⟨ends, stops⟩
  | cons token shared =>
      left
      rw [Cursor.current_eq first, Cursor.current_eq second]

theorem isPunctuation (same : SameAhead c.tokens d.tokens) {text : String} (opens : text ∈ ["(", "[", "."]) :
    c.current.isPunctuation text = d.current.isPunctuation text := by
  rcases same.current with shared | ⟨ends, stops⟩
  · rw [shared]
  · rw [ends.2 text opens, stops.2 text opens]

theorem isSymbol (same : SameAhead c.tokens d.tokens) :
    (c.current.kind = .operator ∧ !isWordLike c.current.value) ↔
      (d.current.kind = .operator ∧ !isWordLike d.current.value) := by
  rcases same.current with shared | ⟨ends, stops⟩
  · rw [shared]
  · simp only [ends.1, stops.1, false_and]

end SameAhead

/-- Tokens that are the same up to a token behind the first one at which expressions end. -/
def SameNext (first second : List Token) : Prop :=
  ∃ token before after, first = token :: before ∧ second = token :: after ∧ SameAhead before after

theorem SameNext.ahead {first second : List Token} (same : SameNext first second) : SameAhead first second := by
  obtain ⟨token, before, after, rfl, rfl, same⟩ := same
  exact same.append [token]

theorem SameNext.before {c d c' d' : Cursor} {used : List Token} (same : SameNext c'.tokens d'.tokens)
    (here : c.Passes used c') (there : d.Passes used d') : SameNext c.tokens d.tokens := by
  cases used with
  | nil => rwa [← here.eq_of_nil, ← there.eq_of_nil]
  | cons token used =>
      exact ⟨token, used ++ c'.tokens, used ++ d'.tokens, here.tokens, there.tokens, same.ahead.append used⟩

theorem SameNext.current {c d : Cursor} (same : SameNext c.tokens d.tokens) : c.current = d.current := by
  obtain ⟨token, before, after, first, second, -⟩ := same
  rw [Cursor.current_eq first, Cursor.current_eq second]

/-- Whatever is read with a budget is read from tokens of its own, and from the same tokens elsewhere with
any budget that is large enough for them. `same` says which tokens may stand behind, `least` how many
tokens are read at least and `steps` which budget is needed for none. -/
def Local {α : Type} (read : Nat → Cursor → Except ParseError (α × Cursor))
    (same : List Token → List Token → Prop) (least steps budget : Nat) : Prop :=
  ∀ c value c', c.Closed → read budget c = .ok (value, c') →
    ∃ used, least ≤ used.length ∧ c.Passes used c' ∧
      ∀ d d', d.Passes used d' → same c'.tokens d'.tokens → ∀ enough, 8 * used.length + steps ≤ enough →
        read enough d = .ok (value, d')

namespace Local

variable {α β : Type} {read read' : Nat → Cursor → Except ParseError (α × Cursor)}
  {same : List Token → List Token → Prop} {least least' steps steps' budget : Nat}

theorem mono (reads : Local read SameAhead least steps budget) : Local read SameNext least steps budget := by
  intro c value c' closed reading
  obtain ⟨used, some_token, passes, again⟩ := reads c value c' closed reading
  exact ⟨used, some_token, passes, fun d d' whole same => again d d' whole same.ahead⟩

theorem relax (reads : Local read same least steps budget) (fewer : least' ≤ least) (more : steps ≤ steps') :
    Local read same least' steps' budget := by
  intro c value c' closed reading
  obtain ⟨used, some_token, passes, again⟩ := reads c value c' closed reading
  refine ⟨used, by omega, passes, ?_⟩
  intro d d' whole alike enough sufficient
  exact again d d' whole alike enough (by omega)

theorem step (reads : Local read' same least steps budget)
    (unfolded : ∀ budget c, read (budget + 1) c = read' budget c) :
    Local read same least (steps + 1) (budget + 1) := by
  intro c value c' closed reading
  rw [unfolded] at reading
  obtain ⟨used, some_token, passes, again⟩ := reads c value c' closed reading
  refine ⟨used, some_token, passes, ?_⟩
  intro d d' whole alike enough sufficient
  obtain ⟨rest, rfl⟩ : ∃ rest, enough = rest + 1 := ⟨enough - 1, by omega⟩
  rw [unfolded]
  exact again d d' whole alike rest (by omega)

theorem done (value : α) (budget steps : Nat) : Local (fun _ c => .ok (value, c)) SameAhead 0 steps budget := by
  intro c result c' closed reading
  cases reading
  refine ⟨[], Nat.le_refl 0, .refl _, ?_⟩
  intro d d' nothing alike enough sufficient
  rw [nothing.eq_of_nil]

theorem expect {kind : TokenKind} (inside : kind ≠ .eof) (value : Option String) (budget : Nat) :
    Local (fun _ c => c.expect kind value) SameAhead 1 0 budget := by
  intro c token c' closed reading
  obtain ⟨fits, rfl, rfl⟩ := Cursor.fits_of_expect reading
  have ofKind : c.current.kind = kind := by
    rw [TokenStream.fits, Bool.and_eq_true, beq_iff_eq] at fits
    exact fits.1
  refine ⟨[c.current], Nat.le_refl 1, closed.next (ofKind ▸ inside), ?_⟩
  intro d d' whole alike enough sufficient
  obtain ⟨sameCurrent, nothing⟩ := whole.uncons
  rw [nothing.eq_of_nil, ← sameCurrent]
  refine Cursor.expect_of_fits ?_
  rw [sameCurrent, fits]

theorem bind {next : α → Nat → Cursor → Except ParseError (β × Cursor)}
    (first : Local read SameAhead least steps budget)
    (second : ∀ value, Local (next value) SameAhead 0 (steps + 8 * least) budget) :
    Local (fun budget c => read budget c >>= fun result => next result.1 budget result.2) SameAhead
      least steps budget := by
  intro c value c' closed reading
  obtain ⟨⟨left, between⟩, front, back⟩ := bind_eq_ok.mp reading
  obtain ⟨used, some_token, passes, again⟩ := first c left between closed front
  obtain ⟨more, -, onward, nextAgain⟩ := second left between value c' (closed.behind passes) back
  refine ⟨used ++ more, ?_, passes.trans onward, ?_⟩
  · rw [List.length_append]
    omega
  · intro d d' whole alike enough sufficient
    obtain ⟨start, rest⟩ := whole.split
    rw [List.length_append] at sufficient
    have taken := again d _ start (alike.before onward rest) enough (by omega)
    dsimp only
    rw [taken]
    exact nextAgain _ d' rest alike enough (by omega)

end Local

section

variable {r : Registries} {budget : Nat}

theorem binary_local (least : UInt8) (unaries : Local (unary r) SameAhead 1 2 budget)
    (climbs : ∀ left, Local (climb r · least left none) SameAhead 0 1 budget) :
    Local (binary r · least) SameAhead 1 3 (budget + 1) := by
  have reads : Local (fun budget c => unary r budget c >>= fun operand =>
      climb r budget least operand.1 none operand.2) SameAhead 1 2 budget :=
    .bind unaries fun left => (climbs left).relax (by omega) (by omega)
  exact reads.step fun _ _ => rfl

/-- The tokens of an operator are passed over, and they are found again in front of the same tokens. -/
theorem binaryAt?_local {c d : Cursor} (same : SameAhead c.tokens d.tokens) :
    r.operators.binaryAt? d.stream.remaining = r.operators.binaryAt? c.stream.remaining := by
  exact congrArg r.operators.resolve? (same.longestMatch r.operators.binary).symm

theorem unaryAt?_local {c d : Cursor} (same : SameAhead c.tokens d.tokens) :
    r.operators.unaryAt? d.stream.remaining = r.operators.unaryAt? c.stream.remaining := by
  exact congrArg r.operators.resolve? (same.longestMatch r.operators.unary).symm

theorem passes_found {c : Cursor} (closed : c.Closed) {trie : AliasTrie} {found : OperatorRegistry.Found}
    (matched : r.operators.resolve? (trie.longestMatch c.stream.remaining) = some found) :
    ∃ words, 1 ≤ words.length ∧ c.Passes words (c.skip found.length) ∧ words.length = found.length ∧
      ∀ word ∈ words, word.kind = .operator := by
  obtain ⟨⟨id, length⟩, longest, resolved⟩ := Option.bind_eq_some_iff.mp matched
  obtain ⟨definition, -, rfl⟩ := Option.map_eq_some_iff.mp resolved
  obtain ⟨words, rest, tokens, rfl, some_word, operators⟩ := AliasTrie.longestMatch_split longest
  refine ⟨words, List.length_pos_iff.mpr some_word, .of_tokens tokens ?_, rfl, operators⟩
  rintro rfl
  -- The last token is an end, and so no word of an operator.
  rw [List.append_nil] at tokens
  have final := closed (words.getLast some_word) (by
    rw [Cursor.tokens, tokens]
    exact List.getLast?_eq_some_getLast some_word)
  rw [operators _ (List.getLast_mem some_word)] at final
  cases final

theorem same_current {c c' d d' : Cursor} {used : List Token} (some_token : 1 ≤ used.length)
    (there : d.Passes used d') (here : c.Passes used c') : d.current = c.current := by
  obtain ⟨token, rest, rfl⟩ := List.exists_cons_of_length_pos some_token
  rw [here.uncons.1, there.uncons.1]

theorem climb_local (least : UInt8) (left : Tree) (earlier : Option (UInt8 × String))
    (operandses : ∀ found left line, Local (operands r · found left line) SameAhead 0 4 budget)
    (climbs : ∀ left earlier, Local (climb r · least left earlier) SameAhead 0 1 budget) :
    Local (climb r · least left earlier) SameAhead 0 1 (budget + 1) := by
  intro c value c' closed reading
  replace reading : climb r (budget + 1) least left earlier c = .ok (value, c') := reading
  rw [climb] at reading
  cases matched : r.operators.binaryAt? c.stream.remaining with
  | none =>
      rw [matched] at reading
      dsimp only at reading
      split at reading
      · cases reading
      · rename_i noSymbol
        cases reading
        refine ⟨[], Nat.le_refl 0, .refl c, ?_⟩
        intro d d' nothing same enough sufficient
        obtain rfl := nothing.eq_of_nil
        obtain ⟨rest, rfl⟩ : ∃ rest, enough = rest + 1 := ⟨enough - 1, by omega⟩
        show climb r (rest + 1) least left earlier d' = .ok (left, d')
        rw [climb, binaryAt?_local same, matched]
        exact if_neg fun symbol => noSymbol (same.isSymbol.mpr symbol)
  | some found =>
      rw [matched] at reading
      dsimp only at reading
      split at reading
      · rename_i loose
        cases reading
        refine ⟨[], Nat.le_refl 0, .refl c, ?_⟩
        intro d d' nothing same enough sufficient
        obtain rfl := nothing.eq_of_nil
        obtain ⟨rest, rfl⟩ : ∃ rest, enough = rest + 1 := ⟨enough - 1, by omega⟩
        show climb r (rest + 1) least left earlier d' = .ok (left, d')
        rw [climb, binaryAt?_local same, matched]
        exact if_pos loose
      · rename_i tight
        split at reading
        · cases reading
        · rename_i unchained
          obtain ⟨⟨node, between⟩, taking, climbing⟩ := bind_eq_ok.mp reading
          obtain ⟨words, some_word, along, length, -⟩ := passes_found closed matched
          obtain ⟨first, -, passes, again⟩ :=
            operandses found left c.current.line _ node between (closed.behind along) taking
          obtain ⟨second, -, onward, climbAgain⟩ :=
            climbs node _ between value c' ((closed.behind along).behind passes) climbing
          refine ⟨words ++ (first ++ second), Nat.zero_le _, along.trans (passes.trans onward), ?_⟩
          intro d d' whole same enough sufficient
          obtain ⟨front, back⟩ := whole.split
          obtain ⟨middle, last⟩ := back.split
          rw [List.length_append, List.length_append] at sufficient
          obtain ⟨rest, rfl⟩ : ∃ rest, enough = rest + 1 := ⟨enough - 1, by omega⟩
          have sameStart := same.before (along.trans (passes.trans onward)) whole
          have sameLine : d.current = c.current := same_current some_word front along
          show climb r (rest + 1) least left earlier d = .ok (value, d')
          rw [climb, binaryAt?_local sameStart, matched]
          dsimp only
          rw [if_neg tight, unchained, sameLine, ← length]
          have taken : operands r rest found left c.current.line (d.skip words.length) = .ok (node, _) :=
            again _ _ middle (same.before onward last) rest (by omega)
          dsimp only
          rw [taken]
          exact climbAgain _ d' last same rest (by omega)

/-- What stands in brackets is read from the tokens between them and the closing one. -/
theorem bracket_local {α : Type} {read : Nat → Cursor → Except ParseError (α × Cursor)} {least steps : Nat}
    (inner : Local read SameNext least steps budget) {kind : StateKind} {label text : String} {line : Nat}
    {c c' between : Cursor} {value : α} (closed : c.Closed)
    (reading : read budget (c.enter kind label line) = .ok (value, between))
    (closing : between.close kind label (.exact .punctuation text) = .ok c') :
    ∃ used, 1 ≤ used.length ∧ c.Passes used c' ∧
      ∀ d d' : Cursor, ∀ other, d.Passes used d' → SameAhead c'.tokens d'.tokens →
        ∀ enough, 8 * used.length + steps ≤ enough + 8 →
          ∃ behind, read enough (d.enter kind label other) = .ok (value, behind) ∧
            behind.close kind label (.exact .punctuation text) = .ok d' := by
  obtain ⟨used, -, entered, again⟩ := inner _ value between (closed.enter kind label line) reading
  have accepted := Cursor.accepts_of_close closing
  have inside : between.current.kind ≠ .eof := by
    intro ending
    rw [TokenPattern.accepts, ending] at accepted
    cases accepted
  obtain ⟨whole, remaining⟩ := entered.closed closed inside closing
  refine ⟨used ++ [between.current], by simp, whole, ?_⟩
  intro d d' other elsewhere same enough sufficient
  rw [List.length_append, List.length_singleton] at sufficient
  obtain ⟨behind, front, sameCloser, shut⟩ := elsewhere.close accepted kind label other
  exact ⟨behind, again _ _ front ⟨_, _, _, remaining, sameCloser, same⟩ enough (by omega), shut⟩

theorem operands_local (found : OperatorRegistry.Found) (left : Tree) (line : Nat)
    (binaries : ∀ least, Local (binary r · least) SameAhead 1 3 budget) :
    Local (operands r · found left line) SameAhead 0 4 (budget + 1) := by
  have behind : ∀ limit, Local (fun budget c => binary r budget limit c >>= fun right =>
      .ok (Tree.operator found.id (some left) none (some right.1) line {}, right.2)) SameAhead 0 3 budget :=
    fun limit => ((binaries limit).bind fun right =>
      .done (Tree.operator found.id (some left) none (some right) line {}) budget _).relax (Nat.zero_le _)
        (Nat.le_refl _)
  have alone : Local (fun _ c => .ok (Tree.operator found.id (some left) none none line {}, c))
      SameAhead 0 3 budget := .done _ budget 3
  cases arity : found.definition.arity with
  | binary => exact (behind _).step fun _ _ => by simp only [operands, arity]; rfl
  | unaryPrefix => exact alone.step fun _ _ => by simp only [operands, arity]
  | test takesArgument =>
      cases takesArgument with
      | true => exact (behind _).step fun _ _ => by simp only [operands, arity]; rfl
      | false => exact alone.step fun _ _ => by simp only [operands, arity]
  | ternary =>
      have last : ∀ middle, Local (fun budget c => binary r budget found.definition.precedence c >>= fun right =>
          .ok (Tree.operator found.id (some left) (some middle) (some right.1) line {}, right.2))
          SameAhead 1 3 budget :=
        fun middle => (binaries _).bind fun right =>
          .done (Tree.operator found.id (some left) (some middle) (some right) line {}) budget _
      have colon : ∀ middle, Local (fun budget c => c.expect .punctuation (some ":") >>= fun colon =>
          binary r budget found.definition.precedence colon.2 >>= fun right =>
          .ok (Tree.operator found.id (some left) (some middle) (some right.1) line {}, right.2))
          SameAhead 1 0 budget :=
        fun middle => (Local.expect (by decide) _ budget).bind fun _ =>
          (last middle).relax (by omega) (by omega)
      have reads := (binaries 0).bind fun middle => (colon middle).relax (Nat.zero_le _) (Nat.zero_le _)
      exact (reads.relax (Nat.zero_le _) (Nat.le_refl _)).step fun _ _ => by simp only [operands, arity]; rfl

theorem unary_local (binaries : ∀ least, Local (binary r · least) SameAhead 1 3 budget)
    (primaries : Local (primary r) SameAhead 1 1 budget)
    (trailerses : ∀ base, Local (trailers r · base) SameAhead 0 1 budget) :
    Local (unary r) SameAhead 1 2 (budget + 1) := by
  intro c value c' closed reading
  rw [unary] at reading
  cases matched : r.operators.unaryAt? c.stream.remaining with
  | some found =>
      rw [matched] at reading
      obtain ⟨⟨operand, last⟩, taking, result⟩ := bind_eq_ok.mp reading
      cases result
      obtain ⟨words, some_word, along, length, -⟩ := passes_found closed matched
      obtain ⟨used, -, passes, again⟩ := binaries _ _ operand c' (closed.behind along) taking
      refine ⟨words ++ used, by rw [List.length_append]; omega, along.trans passes, ?_⟩
      intro d d' whole same enough sufficient
      obtain ⟨front, back⟩ := whole.split
      rw [List.length_append] at sufficient
      obtain ⟨rest, rfl⟩ : ∃ rest, enough = rest + 1 := ⟨enough - 1, by omega⟩
      have sameLine : d.current = c.current := same_current some_word front along
      rw [unary, unaryAt?_local (same.before (along.trans passes) whole), matched]
      have taken : binary r rest found.definition.precedence (d.skip words.length) = .ok (operand, d') :=
        again _ d' back same rest (by omega)
      dsimp only
      rw [← length, taken, sameLine]
      rfl
  | none =>
      rw [matched] at reading
      obtain ⟨⟨base, between⟩, taking, trailing⟩ := bind_eq_ok.mp reading
      obtain ⟨first, some_token, passes, again⟩ := primaries c base between closed taking
      obtain ⟨second, -, onward, trailAgain⟩ := trailerses base between value c' (closed.behind passes) trailing
      refine ⟨first ++ second, by rw [List.length_append]; omega, passes.trans onward, ?_⟩
      intro d d' whole same enough sufficient
      obtain ⟨front, back⟩ := whole.split
      rw [List.length_append] at sufficient
      obtain ⟨rest, rfl⟩ : ∃ rest, enough = rest + 1 := ⟨enough - 1, by omega⟩
      rw [unary, unaryAt?_local (same.before (passes.trans onward) whole), matched]
      dsimp only
      rw [again d _ front (same.before onward back) rest (by omega)]
      exact trailAgain _ d' back same rest (by omega)

theorem arguments_local (label text : String)
    (itemses : Local (items r · (.exact .punctuation text)) SameNext 0 4 budget) :
    Local (arguments r · label (.exact .punctuation text)) SameAhead 1 0 (budget + 1) := by
  intro c value c' closed reading
  replace reading : arguments r (budget + 1) label (.exact .punctuation text) c = .ok (value, c') := reading
  rw [arguments] at reading
  obtain ⟨⟨found, between⟩, listing, rest⟩ := bind_eq_ok.mp reading
  obtain ⟨behind, closing, result⟩ := bind_eq_ok.mp rest
  cases result
  obtain ⟨used, some_token, passes, again⟩ := bracket_local itemses closed listing closing
  refine ⟨used, some_token, passes, ?_⟩
  intro d d' whole same enough sufficient
  obtain ⟨rest, rfl⟩ : ∃ rest, enough = rest + 1 := ⟨enough - 1, by omega⟩
  obtain ⟨last, listed, closed⟩ := again d d' d.current.line whole same rest (by omega)
  show arguments r (rest + 1) label (.exact .punctuation text) d = .ok (value, d')
  have listed : items r rest (.exact .punctuation text) (d.enter .argumentList label d.current.line) =
    .ok (value, last) := listed
  rw [arguments, listed]
  dsimp only [ok_bind]
  rw [closed]
  rfl

theorem items_local (text : String) (binaries : Local (binary r · 0) SameAhead 1 3 budget)
    (itemses : Local (items r · (.exact .punctuation text)) SameNext 0 4 budget) :
    Local (items r · (.exact .punctuation text)) SameNext 0 4 (budget + 1) := by
  intro c value c' closed reading
  replace reading : items r (budget + 1) (.exact .punctuation text) c = .ok (value, c') := reading
  rw [items] at reading
  split at reading
  · rename_i ending
    cases reading
    refine ⟨[], Nat.le_refl 0, .refl c, ?_⟩
    intro d d' nothing same enough sufficient
    obtain rfl := nothing.eq_of_nil
    obtain ⟨rest, rfl⟩ : ∃ rest, enough = rest + 1 := ⟨enough - 1, by omega⟩
    show items r (rest + 1) (.exact .punctuation text) d' = .ok ([], d')
    rw [items, ← same.current, if_pos ending]
  · rename_i more
    obtain ⟨⟨item, between⟩, taking, following⟩ := bind_eq_ok.mp reading
    obtain ⟨first, some_token, passes, again⟩ := binaries c item between closed taking
    dsimp only at following
    split at following
    · rename_i comma
      obtain ⟨⟨later, last⟩, listing, result⟩ := bind_eq_ok.mp following
      cases result
      have along := (closed.behind passes).punctuation comma
      obtain ⟨second, -, onward, listAgain⟩ :=
        itemses _ later last ((closed.behind passes).behind along) listing
      refine ⟨first ++ between.current :: second, Nat.zero_le _, passes.trans (along.trans onward), ?_⟩
      intro d d' whole same enough sufficient
      obtain ⟨front, back⟩ := whole.split
      obtain ⟨sameComma, rear⟩ := back.uncons
      simp only [List.length_cons, List.length_append] at sufficient
      obtain ⟨rest, rfl⟩ : ∃ rest, enough = rest + 1 := ⟨enough - 1, by omega⟩
      have start : d.current = c.current := same_current some_token front passes
      have taken : binary r rest 0 d = .ok (item, _) :=
        again d _ front ((same.before (along.trans onward) back).ahead) rest (by omega)
      have listed : items r rest (.exact .punctuation text) (d.skip first.length).next = .ok (later, d') :=
        listAgain _ d' rear same rest (by omega)
      show items r (rest + 1) (.exact .punctuation text) d = .ok (item :: later, d')
      rw [items, start, if_neg more, taken]
      dsimp only [ok_bind]
      rw [sameComma, if_pos comma, listed]
      rfl
    · rename_i noComma
      cases following
      refine ⟨first, Nat.zero_le _, passes, ?_⟩
      intro d d' whole same enough sufficient
      obtain ⟨rest, rfl⟩ : ∃ rest, enough = rest + 1 := ⟨enough - 1, by omega⟩
      have start : d.current = c.current := same_current some_token whole passes
      have taken : binary r rest 0 d = .ok (item, d') := again d d' whole same.ahead rest (by omega)
      show items r (rest + 1) (.exact .punctuation text) d = .ok ([item], d')
      rw [items, start, if_neg more, taken]
      exact if_neg (same.current ▸ noComma)

theorem single_local {c c' : Cursor} (closed : c.Closed) (inside : c.current.kind ≠ .eof) (behind : c' = c.next)
    {value : Tree}
    (always : ∀ rest (d : Cursor), d.current = c.current → SameAhead c'.tokens d.next.tokens →
      primary r (rest + 1) d = .ok (value, d.next)) :
    ∃ used, 1 ≤ used.length ∧ c.Passes used c' ∧
      ∀ d d', d.Passes used d' → SameAhead c'.tokens d'.tokens → ∀ enough, 8 * used.length + 1 ≤ enough →
        primary r enough d = .ok (value, d') := by
  subst behind
  refine ⟨[c.current], Nat.le_refl 1, closed.next inside, ?_⟩
  intro d d' whole same enough sufficient
  obtain ⟨sameCurrent, nothing⟩ := whole.uncons
  obtain rfl := nothing.eq_of_nil
  obtain ⟨rest, rfl⟩ : ∃ rest, enough = rest + 1 := ⟨enough - 1, by omega⟩
  exact always rest d sameCurrent same

theorem isName_kind {token : Token} (name : isName token = true) : token.kind ≠ .eof := by
  intro ending
  rw [isName, ending] at name
  cases name

theorem primary_local (binaries : Local (binary r · 0) SameAhead 1 3 budget)
    (argumentses : ∀ label text, Local (arguments r · label (.exact .punctuation text)) SameAhead 1 0 budget) :
    Local (primary r) SameAhead 1 1 (budget + 1) := by
  intro c value c' closed reading
  rw [primary] at reading
  dsimp only at reading
  split at reading
  · rename_i isLiteral
    obtain ⟨scalar, read, result⟩ := bind_eq_ok.mp reading
    cases result
    refine single_local closed (by rw [isLiteral]; decide) rfl ?_
    intro rest d sameCurrent _
    rw [primary, sameCurrent]
    dsimp only
    rw [if_pos isLiteral, read]
    rfl
  rename_i notLiteral
  split at reading
  · rename_i isString
    cases reading
    refine single_local closed (by rw [isString]; decide) rfl ?_
    intro rest d sameCurrent _
    rw [primary, sameCurrent]
    dsimp only
    rw [if_neg notLiteral, if_pos isString]
  rename_i notString
  split at reading
  · rename_i isName
    have along := closed.next (isName_kind isName)
    split at reading
    · rename_i opening
      obtain ⟨⟨args, last⟩, listing, result⟩ := bind_eq_ok.mp reading
      cases result
      have onward := (closed.behind along).punctuation opening
      obtain ⟨used, some_token, passes, again⟩ :=
        argumentses _ _ _ args last ((closed.behind along).behind onward) listing
      refine ⟨c.current :: c.next.current :: used, by simp, along.trans (onward.trans passes), ?_⟩
      intro d d' whole same enough sufficient
      obtain ⟨sameCurrent, back⟩ := whole.uncons
      obtain ⟨sameOpening, rear⟩ := back.uncons
      simp only [List.length_cons] at sufficient
      obtain ⟨rest, rfl⟩ : ∃ rest, enough = rest + 1 := ⟨enough - 1, by omega⟩
      have listed : arguments r rest "(" closeParen d.next.next = .ok (args, d') :=
        again _ d' rear same rest (by omega)
      rw [primary, sameCurrent]
      dsimp only
      rw [if_neg notLiteral, if_neg notString, if_pos isName, sameOpening, if_pos opening, listed]
      rfl
    · rename_i noCall
      cases reading
      refine single_local closed (isName_kind isName) rfl ?_
      intro rest d sameCurrent same
      rw [primary, sameCurrent]
      dsimp only
      rw [if_neg notLiteral, if_neg notString, if_pos isName, if_neg]
      rwa [← same.isPunctuation (by decide)]
  rename_i notName
  split at reading
  · rename_i opening
    obtain ⟨⟨inner, between⟩, taking, closing⟩ := bind_eq_ok.mp reading
    obtain ⟨behind, closing, result⟩ := bind_eq_ok.mp closing
    cases result
    have along := closed.punctuation opening
    obtain ⟨used, some_token, passes, again⟩ :=
      bracket_local binaries.mono (closed.behind along) taking closing
    refine ⟨c.current :: used, by simp, along.trans passes, ?_⟩
    intro d d' whole same enough sufficient
    obtain ⟨sameCurrent, back⟩ := whole.uncons
    rw [List.length_cons] at sufficient
    obtain ⟨rest, rfl⟩ : ∃ rest, enough = rest + 1 := ⟨enough - 1, by omega⟩
    obtain ⟨last, taken, shut⟩ := again _ d' c.current.line back same rest (by omega)
    have taken : binary r rest 0 (d.next.enter .expression "(" c.current.line) = .ok (inner, last) := taken
    rw [primary, sameCurrent]
    dsimp only
    rw [if_neg notLiteral, if_neg notString, if_neg notName, if_pos opening, taken]
    dsimp only [ok_bind]
    rw [closeParen, shut]
    rfl
  rename_i notGroup
  split at reading
  · rename_i opening
    obtain ⟨⟨found, last⟩, listing, result⟩ := bind_eq_ok.mp reading
    cases result
    have along := closed.punctuation opening
    obtain ⟨used, some_token, passes, again⟩ := argumentses _ _ _ found last (closed.behind along) listing
    refine ⟨c.current :: used, by simp, along.trans passes, ?_⟩
    intro d d' whole same enough sufficient
    obtain ⟨sameCurrent, back⟩ := whole.uncons
    rw [List.length_cons] at sufficient
    obtain ⟨rest, rfl⟩ : ∃ rest, enough = rest + 1 := ⟨enough - 1, by omega⟩
    have listed : arguments r rest "[" closeBracket d.next = .ok (found, d') :=
      again _ d' back same rest (by omega)
    rw [primary, sameCurrent]
    dsimp only
    rw [if_neg notLiteral, if_neg notString, if_neg notName, if_neg notGroup, if_pos opening, listed]
    rfl
  · cases reading

theorem attribute_local {base : Tree} (trailerses : ∀ base, Local (trailers r · base) SameAhead 0 1 budget)
    {c c' : Cursor} {value next : Tree} (closed : c.Closed) (dot : c.current.isPunctuation "." = true)
    (inside : c.next.current.kind ≠ .eof) (trailing : trailers r budget next c.next.next = .ok (value, c'))
    (always : ∀ rest (d : Cursor), d.current = c.current → d.next.current = c.next.current →
      SameAhead c.next.next.tokens d.next.next.tokens →
      trailers r (rest + 1) base d = trailers r rest next d.next.next) :
    ∃ used, 0 ≤ used.length ∧ c.Passes used c' ∧
      ∀ d d', d.Passes used d' → SameAhead c'.tokens d'.tokens → ∀ enough, 8 * used.length + 1 ≤ enough →
        trailers r enough base d = .ok (value, d') := by
  have along := closed.punctuation dot
  have onward := (closed.behind along).next inside
  obtain ⟨used, -, passes, again⟩ := trailerses next _ value c' ((closed.behind along).behind onward) trailing
  refine ⟨c.current :: c.next.current :: used, Nat.zero_le _, along.trans (onward.trans passes), ?_⟩
  intro d d' whole same enough sufficient
  obtain ⟨sameCurrent, back⟩ := whole.uncons
  obtain ⟨sameName, rear⟩ := back.uncons
  simp only [List.length_cons] at sufficient
  obtain ⟨rest, rfl⟩ : ∃ rest, enough = rest + 1 := ⟨enough - 1, by omega⟩
  rw [always rest d sameCurrent sameName (same.before passes rear)]
  exact again _ d' rear same rest (by omega)

theorem trailers_local (base : Tree) (binaries : Local (binary r · 0) SameAhead 1 3 budget)
    (argumentses : ∀ label text, Local (arguments r · label (.exact .punctuation text)) SameAhead 1 0 budget)
    (trailerses : ∀ base, Local (trailers r · base) SameAhead 0 1 budget) :
    Local (trailers r · base) SameAhead 0 1 (budget + 1) := by
  intro c value c' closed reading
  replace reading : trailers r (budget + 1) base c = .ok (value, c') := reading
  rw [trailers] at reading
  dsimp only at reading
  split at reading
  · rename_i opening
    obtain ⟨⟨key, between⟩, taking, closing⟩ := bind_eq_ok.mp reading
    obtain ⟨behind, closing, trailing⟩ := bind_eq_ok.mp closing
    have along := closed.punctuation opening
    obtain ⟨first, some_token, passes, again⟩ :=
      bracket_local binaries.mono (closed.behind along) taking closing
    obtain ⟨second, -, onward, trailAgain⟩ :=
      trailerses _ behind value c' ((closed.behind along).behind passes) trailing
    refine ⟨c.current :: (first ++ second), Nat.zero_le _, along.trans (passes.trans onward), ?_⟩
    intro d d' whole same enough sufficient
    obtain ⟨sameCurrent, back⟩ := whole.uncons
    obtain ⟨middle, rear⟩ := back.split
    simp only [List.length_cons, List.length_append] at sufficient
    obtain ⟨rest, rfl⟩ : ∃ rest, enough = rest + 1 := ⟨enough - 1, by omega⟩
    obtain ⟨last, taken, shut⟩ :=
      again _ _ c.current.line middle (same.before onward rear) rest (by omega)
    have taken : binary r rest 0 (d.next.enter .array "[" c.current.line) = .ok (key, last) := taken
    show trailers r (rest + 1) base d = .ok (value, d')
    rw [trailers, sameCurrent]
    dsimp only
    rw [if_pos opening, taken]
    dsimp only [ok_bind]
    rw [closeBracket, shut]
    exact trailAgain _ d' rear same rest (by omega)
  rename_i notIndex
  split at reading
  · rename_i dot
    split at reading
    · rename_i isName
      split at reading
      · rename_i opening
        obtain ⟨⟨args, between⟩, listing, trailing⟩ := bind_eq_ok.mp reading
        have along := closed.punctuation dot
        have named := (closed.behind along).next (isName_kind isName)
        have opened := ((closed.behind along).behind named).punctuation opening
        have inside := ((closed.behind along).behind named).behind opened
        obtain ⟨first, some_token, passes, again⟩ := argumentses _ _ _ args between inside listing
        obtain ⟨second, -, onward, trailAgain⟩ :=
          trailerses _ between value c' (inside.behind passes) trailing
        refine ⟨c.current :: c.next.current :: c.next.next.current :: (first ++ second), Nat.zero_le _,
          along.trans (named.trans (opened.trans (passes.trans onward))), ?_⟩
        intro d d' whole same enough sufficient
        obtain ⟨sameDot, back⟩ := whole.uncons
        obtain ⟨sameName, back⟩ := back.uncons
        obtain ⟨sameOpening, back⟩ := back.uncons
        obtain ⟨middle, rear⟩ := back.split
        simp only [List.length_cons, List.length_append] at sufficient
        obtain ⟨rest, rfl⟩ : ∃ rest, enough = rest + 1 := ⟨enough - 1, by omega⟩
        have listed : arguments r rest "(" closeParen d.next.next.next = .ok (args, _) :=
          again _ _ middle (same.before onward rear) rest (by omega)
        show trailers r (rest + 1) base d = .ok (value, d')
        rw [trailers, sameDot]
        dsimp only
        rw [if_neg notIndex, if_pos dot, sameName, if_pos isName, sameOpening, if_pos opening, listed]
        exact trailAgain _ d' rear same rest (by omega)
      · rename_i noCall
        refine attribute_local trailerses closed dot (isName_kind isName) reading ?_
        intro rest d sameDot sameName same
        rw [trailers, sameDot]
        dsimp only
        rw [if_neg notIndex, if_pos dot, sameName, if_pos isName, if_neg]
        rwa [← same.isPunctuation (by decide)]
    · rename_i notName
      split at reading
      · rename_i isNumber
        obtain ⟨number, read, trailing⟩ := bind_eq_ok.mp reading
        refine attribute_local trailerses closed dot (by rw [isNumber.1]; decide) trailing ?_
        intro rest d sameDot sameName same
        rw [trailers, sameDot]
        dsimp only
        rw [if_neg notIndex, if_pos dot, sameName, if_neg notName, if_pos isNumber, read]
        rfl
      · cases reading
  · rename_i notDot
    cases reading
    refine ⟨[], Nat.le_refl 0, .refl c, ?_⟩
    intro d d' nothing same enough sufficient
    obtain rfl := nothing.eq_of_nil
    obtain ⟨rest, rfl⟩ : ∃ rest, enough = rest + 1 := ⟨enough - 1, by omega⟩
    show trailers r (rest + 1) base d' = .ok (base, d')
    rw [trailers]
    dsimp only
    rw [← same.isPunctuation (by decide), ← same.isPunctuation (by decide), if_neg notIndex, if_neg notDot]

theorem readings_local (r : Registries) (budget : Nat) :
    (∀ least, Local (binary r · least) SameAhead 1 3 budget) ∧
      (∀ least left earlier, Local (climb r · least left earlier) SameAhead 0 1 budget) ∧
      (∀ found left line, Local (operands r · found left line) SameAhead 0 4 budget) ∧
      Local (unary r) SameAhead 1 2 budget ∧ Local (primary r) SameAhead 1 1 budget ∧
      (∀ base, Local (trailers r · base) SameAhead 0 1 budget) ∧
      (∀ label text, Local (arguments r · label (.exact .punctuation text)) SameAhead 1 0 budget) ∧
      ∀ text, Local (items r · (.exact .punctuation text)) SameNext 0 4 budget := by
  induction budget with
  | zero =>
      -- Nothing is read without a budget.
      refine ⟨?_, ?_, ?_, ?_, ?_, ?_, ?_, ?_⟩ <;> intros <;> intro c value c' closed reading <;>
        exact nomatch reading
  | succ budget ih =>
      obtain ⟨binaries, climbs, operandses, unaries, primaries, trailerses, argumentses, itemses⟩ := ih
      exact ⟨fun least => binary_local least unaries fun left => climbs least left none,
        fun least left earlier => climb_local least left earlier operandses (climbs least),
        fun found left line => operands_local found left line binaries,
        unary_local binaries primaries trailerses, primary_local (binaries 0) argumentses,
        fun base => trailers_local base (binaries 0) argumentses trailerses,
        fun label text => arguments_local label text (itemses text),
        fun text => items_local text (binaries 0) (itemses text)⟩

end

variable {r : Registries} {c c' : Cursor} {tokens rest : List Token} {token : Token} {tree : Tree}

/-- Reading an expression from the tokens alone takes all of them. -/
def ReadsWhole (r : Registries) (tokens : List Token) (tree : Tree) : Prop :=
  ∃ c, expression r { stream := .ofTokens (tokens ++ [.eof 1]) } = .ok (tree, c) ∧ c.tokens = [.eof 1]

theorem tokens_ofTokens {front : List Token} (ending : token.kind = .eof) :
    Cursor.tokens { stream := .ofTokens (front ++ [token]) } = front ++ [token] := by
  have closed : TokenStream.closed (front ++ [token]) = front ++ [token] := by
    rw [TokenStream.closed, List.getLast?_concat]
    exact if_pos ending
  rw [Cursor.tokens, TokenStream.ofTokens, closed]
  cases front <;> rfl

theorem closed_ofTokens {front : List Token} (ending : token.kind = .eof) :
    Cursor.Closed { stream := .ofTokens (front ++ [token]) } := by
  intro last final
  rw [tokens_ofTokens ending, List.getLast?_concat] at final
  cases final
  exact ending

/-- The tokens of an expression give it in front of every token at which expressions end. -/
theorem ReadsWhole.binary (whole : ReadsWhole r tokens tree) (split : c.tokens = tokens ++ token :: rest)
    (ends : Ends token) {budget : Nat} (enough : 8 * tokens.length + 3 ≤ budget) :
    binary r budget 0 c = .ok (tree, c.skip tokens.length) := by
  obtain ⟨last, reading, remaining⟩ := whole
  have start : Cursor.tokens { stream := .ofTokens (tokens ++ [.eof 1]) } = tokens ++ [.eof 1] :=
    tokens_ofTokens rfl
  obtain ⟨used, -, passes, again⟩ := (readings_local r _).1 0 _ tree last (closed_ofTokens rfl) reading
  obtain rfl : used = tokens := by
    have covered := passes.tokens
    rw [start, remaining] at covered
    exact (List.append_cancel_right covered).symm
  have along : c.Passes used (c.skip used.length) := .of_tokens split (List.cons_ne_nil _ _)
  refine again c _ along ?_ budget enough
  rw [remaining, Cursor.tokens_skip split (List.cons_ne_nil _ _)]
  exact ⟨[], .eof 1, [], token, rest, rfl, rfl, Ends.of_kind nofun nofun, ends⟩

theorem ReadsWhole.expression (whole : ReadsWhole r tokens tree) (split : c.tokens = tokens ++ token :: rest)
    (ends : Ends token) : expression r c = .ok (tree, c.skip tokens.length) := by
  refine whole.binary split ends ?_
  have length := congrArg List.length split
  rw [← c.later_length, List.length_append, List.length_cons] at length
  rw [Cursor.budget]
  omega

/-- What is read as an expression is a segment in front of the token behind it. -/
theorem readsWhole_of_expression (closed : c.Closed) (reading : expression r c = .ok (tree, c'))
    (ends : Ends c'.current) : ∃ tokens, c.Passes tokens c' ∧ ReadsWhole r tokens tree := by
  obtain ⟨used, -, passes, again⟩ := (readings_local r _).1 0 c tree c' closed reading
  have start : Cursor.tokens { stream := .ofTokens (used ++ [.eof 1]) } = used ++ [.eof 1] := tokens_ofTokens rfl
  have alone := Cursor.tokens_skip start (List.cons_ne_nil _ _)
  refine ⟨used, passes, _, again _ _ (.of_tokens start (List.cons_ne_nil _ _)) ?_ _ ?_, alone⟩
  · rw [alone]
    exact ⟨[], c'.current, c'.stream.later, .eof 1, [], rfl, rfl, ends, Ends.of_kind nofun nofun⟩
  · have length := congrArg List.length start
    rw [← Cursor.later_length, List.length_append, List.length_singleton] at length
    rw [Cursor.budget]
    omega

theorem beginsExpression_of_primary {budget : Nat} {result : Tree × Cursor}
    (reading : primary r budget c = .ok result) : TokenPattern.beginsExpression c.current = true := by
  cases budget with
  | zero => cases reading
  | succ budget =>
      rw [primary] at reading
      dsimp only at reading
      rw [TokenPattern.beginsExpression]
      split at reading
      · rename_i isLiteral
        rw [isLiteral]
      split at reading
      · rename_i isString
        rw [isString]
      split at reading
      · rename_i named
        rw [isName, Bool.and_eq_true, Bool.or_eq_true, beq_iff_eq, beq_iff_eq] at named
        rcases named.1 with isIdentifier | isOperator
        · rw [isIdentifier]
        · rw [isOperator]
      split at reading
      · rename_i opening
        obtain ⟨isPunctuation, text⟩ := Token.isPunctuation_iff.mp opening
        rw [isPunctuation, text]
        rfl
      split at reading
      · rename_i opening
        obtain ⟨isPunctuation, text⟩ := Token.isPunctuation_iff.mp opening
        rw [isPunctuation, text]
        rfl
      · cases reading

theorem beginsExpression_of_expression {result : Tree × Cursor} (reading : expression r c = .ok result) :
    TokenPattern.beginsExpression c.current = true := by
  rw [expression, Cursor.budget, Nat.mul_add] at reading
  rw [show 8 * c.stream.later.length + 8 * 2 = (8 * c.stream.later.length + 14) + 1 + 1 by omega] at reading
  rw [Parse.binary] at reading
  obtain ⟨⟨left, between⟩, operand, -⟩ := bind_eq_ok.mp reading
  rw [unary] at operand
  cases matched : r.operators.unaryAt? c.stream.remaining with
  | none =>
      rw [matched] at operand
      obtain ⟨base, taking, -⟩ := bind_eq_ok.mp operand
      exact beginsExpression_of_primary taking
  | some found =>
      obtain ⟨pair, longest, -⟩ := Option.bind_eq_some_iff.mp matched
      obtain ⟨words, behind, split, -, some_word, operators⟩ := AliasTrie.longestMatch_split longest
      obtain ⟨word, words, rfl⟩ := List.exists_cons_of_ne_nil some_word
      rw [TokenPattern.beginsExpression, Cursor.current_eq split, operators word List.mem_cons_self]

end Templating.Parse
