import Templating.Proofs.Locality
import Templating.Proofs.SourceSplitting

/-! # The tokens of expressions

Reading an expression passes no token that only delimiters or text give, so it does not leave the region that it
starts in.
-/

namespace Templating

open Source (innerKinds)

/-- One cursor stands behind another, with no token between them that only delimiters or text give. -/
def Cursor.Within (c d : Cursor) : Prop :=
  ∃ used, c.Passes used d ∧ ∀ token ∈ used, token.kind ∈ innerKinds

namespace Cursor.Within

variable {c d e : Cursor}

theorem refl (c : Cursor) : c.Within c :=
  ⟨[], .refl c, nofun⟩

theorem trans (before : c.Within d) (after : d.Within e) : c.Within e := by
  obtain ⟨first, along, inner⟩ := before
  obtain ⟨second, onward, also⟩ := after
  exact ⟨first ++ second, along.trans onward, List.forall_mem_append.mpr ⟨inner, also⟩⟩

theorem behind (within : c.Within d) (closed : c.Closed) : d.Closed := by
  obtain ⟨used, passes, -⟩ := within
  exact closed.behind passes

theorem next (closed : c.Closed) {kind : TokenKind} (ofKind : c.current.kind = kind) (inner : kind ∈ innerKinds) :
    c.Within c.next := by
  subst ofKind
  have inside : c.current.kind ≠ .eof := by
    intro isEnd
    rw [isEnd] at inner
    simp [innerKinds] at inner
  exact ⟨[c.current], closed.next inside, by simpa using inner⟩

theorem punctuation (closed : c.Closed) {text : String} (isText : c.current.isPunctuation text = true) : c.Within c.next :=
  next closed (Token.isPunctuation_iff.mp isText).1 (by simp [innerKinds])

/-- What is entered in front of some tokens can be closed behind them by a bracket. -/
theorem closed {kind : StateKind} {label text : String} {line : Nat} (closed : c.Closed)
    (within : (c.enter kind label line).Within d) (closing : d.close kind label (.exact .punctuation text) = .ok e) :
    c.Within e := by
  obtain ⟨used, entered, inner⟩ := within
  have isText : d.current.isPunctuation text = true := Cursor.accepts_of_close closing
  obtain ⟨passes, -⟩ := entered.closed closed (Token.ne_eof_of_isPunctuation isText) closing
  refine ⟨used ++ [d.current], passes, List.forall_mem_append.mpr ⟨inner, ?_⟩⟩
  simp [innerKinds, (Token.isPunctuation_iff.mp isText).1]

end Cursor.Within

namespace Parse

variable {r : Registries} {budget : Nat} {c c' : Cursor} {tree : Tree}

theorem within_expect (closed : c.Closed) {token : Token} {kind : TokenKind} {value : Option String}
    (inner : kind ∈ innerKinds) (expected : c.expect kind value = .ok (token, c')) : c.Within c' := by
  obtain ⟨fits, rfl, rfl⟩ := Cursor.fits_of_expect expected
  rw [TokenStream.fits, Bool.and_eq_true, beq_iff_eq] at fits
  exact .next closed fits.1 inner

theorem within_isName (closed : c.Closed) (name : isName c.current = true) : c.Within c.next := by
  rw [isName, Bool.and_eq_true, Bool.or_eq_true, beq_iff_eq, beq_iff_eq] at name
  rcases name.1 with isIdentifier | isOperator
  · exact .next closed isIdentifier (by simp [innerKinds])
  · exact .next closed isOperator (by simp [innerKinds])

theorem within_found (closed : c.Closed) {trie : AliasTrie} {found : OperatorRegistry.Found}
    (matched : r.operators.resolve? (trie.longestMatch c.stream.remaining) = some found) : c.Within (c.skip found.length) := by
  obtain ⟨words, -, passes, -, operators⟩ := passes_found closed matched
  refine ⟨words, passes, fun word member => ?_⟩
  rw [operators word member]
  simp [innerKinds]

/-- What one unit of budget more reads stays in its region if what fewer units read does. -/
structure StaysInside (r : Registries) (budget : Nat) : Prop where
  binary : ∀ {least c tree c'}, c.Closed → binary r budget least c = .ok (tree, c') → c.Within c'
  climb : ∀ {least left earlier c tree c'}, c.Closed → climb r budget least left earlier c = .ok (tree, c') → c.Within c'
  operands : ∀ {found left line c tree c'}, c.Closed → operands r budget found left line c = .ok (tree, c') → c.Within c'
  unary : ∀ {c tree c'}, c.Closed → unary r budget c = .ok (tree, c') → c.Within c'
  primary : ∀ {c tree c'}, c.Closed → primary r budget c = .ok (tree, c') → c.Within c'
  trailers : ∀ {base c tree c'}, c.Closed → trailers r budget base c = .ok (tree, c') → c.Within c'
  arguments : ∀ {label text c trees c'}, c.Closed → arguments r budget label (.exact .punctuation text) c = .ok (trees, c') →
    c.Within c'
  items : ∀ {closer c trees c'}, c.Closed → items r budget closer c = .ok (trees, c') → c.Within c'

namespace StaysInside

theorem binary_succ (stays : StaysInside r budget) (closed : c.Closed) {least : UInt8}
    (reading : Parse.binary r (budget + 1) least c = .ok (tree, c')) : c.Within c' := by
  rw [Parse.binary] at reading
  obtain ⟨⟨left, between⟩, operand, climbing⟩ := bind_eq_ok.mp reading
  have front := stays.unary closed operand
  exact front.trans (stays.climb (front.behind closed) climbing)

theorem climb_succ (stays : StaysInside r budget) (closed : c.Closed) {least : UInt8} {left : Tree}
    {earlier : Option (UInt8 × String)} (reading : Parse.climb r (budget + 1) least left earlier c = .ok (tree, c')) :
    c.Within c' := by
  rw [Parse.climb] at reading
  cases matched : r.operators.binaryAt? c.stream.remaining with
  | none =>
      rw [matched] at reading
      dsimp only at reading
      split at reading
      · cases reading
      · cases reading
        exact .refl c
  | some found =>
      rw [matched] at reading
      dsimp only at reading
      split at reading
      · cases reading
        exact .refl c
      split at reading
      · cases reading
      · obtain ⟨⟨node, between⟩, taking, climbing⟩ := bind_eq_ok.mp reading
        have word := within_found closed matched
        have front := word.trans (stays.operands (word.behind closed) taking)
        exact front.trans (stays.climb (front.behind closed) climbing)

theorem operands_succ (stays : StaysInside r budget) (closed : c.Closed) {found : OperatorRegistry.Found} {left : Tree}
    {line : Nat} (reading : Parse.operands r (budget + 1) found left line c = .ok (tree, c')) : c.Within c' := by
  rw [Parse.operands] at reading
  split at reading
  · obtain ⟨⟨right, behind⟩, taking, ⟨⟩⟩ := bind_eq_ok.mp reading
    exact stays.binary closed taking
  · obtain ⟨⟨right, behind⟩, taking, ⟨⟩⟩ := bind_eq_ok.mp reading
    exact stays.binary closed taking
  · obtain ⟨⟨middle, between⟩, taking, rest⟩ := bind_eq_ok.mp reading
    obtain ⟨⟨colon, behind⟩, expected, rest⟩ := bind_eq_ok.mp rest
    obtain ⟨⟨right, last⟩, ending, ⟨⟩⟩ := bind_eq_ok.mp rest
    have first := stays.binary closed taking
    have front := first.trans (within_expect (first.behind closed) (by simp [innerKinds]) expected)
    exact front.trans (stays.binary (front.behind closed) ending)
  · cases reading
    exact .refl c
  · cases reading
    exact .refl c

theorem unary_succ (stays : StaysInside r budget) (closed : c.Closed)
    (reading : Parse.unary r (budget + 1) c = .ok (tree, c')) : c.Within c' := by
  rw [Parse.unary] at reading
  cases matched : r.operators.unaryAt? c.stream.remaining with
  | none =>
      rw [matched] at reading
      obtain ⟨⟨base, between⟩, taking, trailing⟩ := bind_eq_ok.mp reading
      have front := stays.primary closed taking
      exact front.trans (stays.trailers (front.behind closed) trailing)
  | some found =>
      rw [matched] at reading
      obtain ⟨⟨operand, behind⟩, taking, ⟨⟩⟩ := bind_eq_ok.mp reading
      have word := within_found closed matched
      exact word.trans (stays.binary (word.behind closed) taking)

theorem primary_succ (stays : StaysInside r budget) (closed : c.Closed)
    (reading : Parse.primary r (budget + 1) c = .ok (tree, c')) : c.Within c' := by
  rw [Parse.primary] at reading
  dsimp only at reading
  split at reading
  · rename_i isLiteral
    obtain ⟨value, -, ⟨⟩⟩ := bind_eq_ok.mp reading
    exact .next closed isLiteral (by simp [innerKinds])
  split at reading
  · rename_i isString
    cases reading
    exact .next closed isString (by simp [innerKinds])
  split at reading
  · rename_i name
    have front := within_isName closed name
    split at reading
    · rename_i opens
      obtain ⟨⟨args, behind⟩, listing, ⟨⟩⟩ := bind_eq_ok.mp reading
      have bracket := front.trans (.punctuation (front.behind closed) opens)
      exact bracket.trans (stays.arguments (bracket.behind closed) listing)
    · cases reading
      exact front
  split at reading
  · rename_i opens
    obtain ⟨⟨inner, behind⟩, taking, rest⟩ := bind_eq_ok.mp reading
    obtain ⟨last, closing, ⟨⟩⟩ := bind_eq_ok.mp rest
    have bracket := Cursor.Within.punctuation closed opens
    have inside := bracket.behind closed
    exact bracket.trans (.closed inside (stays.binary (inside.enter _ _ _) taking) closing)
  split at reading
  · rename_i opens
    obtain ⟨⟨items, behind⟩, listing, ⟨⟩⟩ := bind_eq_ok.mp reading
    have bracket := Cursor.Within.punctuation closed opens
    exact bracket.trans (stays.arguments (bracket.behind closed) listing)
  · cases reading

theorem trailers_succ (stays : StaysInside r budget) (closed : c.Closed) {base : Tree}
    (reading : Parse.trailers r (budget + 1) base c = .ok (tree, c')) : c.Within c' := by
  rw [Parse.trailers] at reading
  dsimp only at reading
  split at reading
  · rename_i opens
    obtain ⟨⟨key, between⟩, taking, rest⟩ := bind_eq_ok.mp reading
    obtain ⟨behind, closing, trailing⟩ := bind_eq_ok.mp rest
    have bracket := Cursor.Within.punctuation closed opens
    have inside := bracket.behind closed
    have front := bracket.trans (.closed inside (stays.binary (inside.enter _ _ _) taking) closing)
    exact front.trans (stays.trailers (front.behind closed) trailing)
  split at reading
  · rename_i dot
    have point := Cursor.Within.punctuation closed dot
    split at reading
    · rename_i name
      have front := point.trans (within_isName (point.behind closed) name)
      split at reading
      · rename_i opens
        obtain ⟨⟨args, behind⟩, listing, trailing⟩ := bind_eq_ok.mp reading
        have bracket := front.trans (.punctuation (front.behind closed) opens)
        have called := bracket.trans (stays.arguments (bracket.behind closed) listing)
        exact called.trans (stays.trailers (called.behind closed) trailing)
      · exact front.trans (stays.trailers (front.behind closed) reading)
    split at reading
    · rename_i isLiteral
      obtain ⟨value, -, trailing⟩ := bind_eq_ok.mp reading
      have front := point.trans (.next (point.behind closed) isLiteral.1 (by simp [innerKinds]))
      exact front.trans (stays.trailers (front.behind closed) trailing)
    · cases reading
  · cases reading
    exact .refl c

theorem arguments_succ (stays : StaysInside r budget) (closed : c.Closed) {label text : String} {trees : List Tree}
    (reading : Parse.arguments r (budget + 1) label (.exact .punctuation text) c = .ok (trees, c')) : c.Within c' := by
  rw [Parse.arguments] at reading
  obtain ⟨⟨items, between⟩, listing, rest⟩ := bind_eq_ok.mp reading
  obtain ⟨behind, closing, ⟨⟩⟩ := bind_eq_ok.mp rest
  exact .closed closed (stays.items (closed.enter _ _ _) listing) closing

theorem items_succ (stays : StaysInside r budget) (closed : c.Closed) {closer : TokenPattern} {trees : List Tree}
    (reading : Parse.items r (budget + 1) closer c = .ok (trees, c')) : c.Within c' := by
  rw [Parse.items] at reading
  split at reading
  · cases reading
    exact .refl c
  · obtain ⟨⟨item, between⟩, taking, rest⟩ := bind_eq_ok.mp reading
    have front := stays.binary closed taking
    dsimp only at rest
    split at rest
    · rename_i comma
      obtain ⟨⟨later, behind⟩, listing, ⟨⟩⟩ := bind_eq_ok.mp rest
      have between := front.trans (.punctuation (front.behind closed) comma)
      exact between.trans (stays.items (between.behind closed) listing)
    · cases rest
      exact front

end StaysInside

theorem staysInside (r : Registries) (budget : Nat) : StaysInside r budget := by
  induction budget with
  | zero => constructor <;> intros <;> contradiction
  | succ budget stays =>
      exact ⟨fun closed reading => stays.binary_succ closed reading,
        fun closed reading => stays.climb_succ closed reading,
        fun closed reading => stays.operands_succ closed reading,
        fun closed reading => stays.unary_succ closed reading,
        fun closed reading => stays.primary_succ closed reading,
        fun closed reading => stays.trailers_succ closed reading,
        fun closed reading => stays.arguments_succ closed reading,
        fun closed reading => stays.items_succ closed reading⟩

/-- The tokens of an expression are none that only delimiters or text give. -/
theorem ReadsWhole.kinds {tokens : List Token} (whole : ReadsWhole r tokens tree) :
    ∀ token ∈ tokens, token.kind ∈ innerKinds := by
  obtain ⟨last, reading, remaining⟩ := whole
  obtain ⟨used, passes, inner⟩ := (staysInside r _).binary (closed_ofTokens rfl) reading
  have covered := passes.tokens
  rw [tokens_ofTokens rfl, remaining] at covered
  rw [List.append_cancel_right covered]
  exact inner

end Parse

end Templating
