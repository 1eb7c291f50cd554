import Templating.Proofs.OpenerSearch
import Templating.Proofs.Outcome

/-! # Splitting a source

Tokenizing loses nothing: a source that can be tokenized is text with sections in it, and its tokens are those of
the sections between the texts, less the blanks that the sections beside a text remove.
-/

namespace Templating

/-- A token apart from its line. -/
def Token.face (token : Token) : TokenKind × String :=
  (token.kind, token.value)

namespace Source

/-- The kinds of the tokens between an opener and its closer. -/
def innerKinds : List TokenKind :=
  [.identifier, .keyword, .operator, .literal, .string, .punctuation]

section

variable {v : Vocabulary} {startsTag : Bool} {line : Nat} {first : Char} {more : List Char} {lexeme : Lexeme}

theorem suffix_readQuoted {quote : Char} {text value rest : List Char} {lines : Nat}
    (found : readQuoted quote text = some (value, lines, rest)) : rest <:+ text := by
  fun_induction readQuoted quote text generalizing value lines rest with
  | case1 => cases found
  | case2 => cases found
  | case3 c tail ih =>
      obtain ⟨⟨value, lines, rest⟩, inner, ⟨⟩⟩ := Option.map_eq_some_iff.mp found
      exact (ih inner).trans ((List.suffix_cons _ _).trans (List.suffix_cons _ _))
  | case4 tail =>
      cases found
      exact List.suffix_cons _ _
  | case5 c tail _ _ _ ih =>
      obtain ⟨⟨value, lines, rest⟩, inner, ⟨⟩⟩ := Option.map_eq_some_iff.mp found
      exact (ih inner).trans (List.suffix_cons _ _)

theorem suffix_readNumber (text : List Char) : (readNumber text).2 <:+ text := by
  have behind := List.dropWhile_suffix (l := text) Char.isDigit
  unfold readNumber
  dsimp only
  split
  · rename_i d later same
    split
    · have fraction := List.dropWhile_suffix (l := d :: later) Char.isDigit
      rw [same] at behind
      exact fraction.trans ((List.suffix_cons _ _).trans behind)
    · exact behind
  · exact behind

theorem wordKind_mem (v : Vocabulary) (startsTag : Bool) (word : String) : wordKind v startsTag word ∈ innerKinds := by
  unfold wordKind
  split
  · simp [innerKinds]
  · split
    · simp [innerKinds]
    · split <;> simp [innerKinds]

/-- Reading a token leaves an end of the text, and the token is none that only delimiters or text give. -/
theorem readToken_spec (read : readToken v startsTag line first more = .ok lexeme) :
    lexeme.rest <:+ first :: more ∧ lexeme.token.kind ∈ innerKinds := by
  simp only [readToken] at read
  split at read
  · split at read
    · rename_i found
      cases read
      exact ⟨(suffix_readQuoted found).trans (List.suffix_cons _ _), by simp [innerKinds]⟩
    · cases read
  split at read
  · cases read
    exact ⟨suffix_readNumber _, by simp [innerKinds]⟩
  split at read
  · cases read
    exact ⟨(List.dropWhile_suffix _).trans (List.suffix_cons _ _), wordKind_mem ..⟩
  split at read
  · cases read
    exact ⟨List.drop_suffix _ _, by simp [innerKinds]⟩
  split at read
  · cases read
    exact ⟨List.suffix_cons _ _, by simp [innerKinds]⟩
  · cases read

end

/-- The closer of a region stands at the start of a text, alone or behind the trim mark. -/
def ClosesAt (d : Delimiters) (close : String) (text : List Char) : Prop :=
  close.toList <+: text ∨ d.trim :: close.toList <+: text

instance (d : Delimiters) (close : String) (text : List Char) : Decidable (ClosesAt d close text) :=
  inferInstanceAs (Decidable (_ ∨ _))

/-- The trim mark, where there is one. -/
def trimMark (d : Delimiters) (present : Bool) : List Char :=
  if present then [d.trim] else []

theorem behind?_eq_some_iff {piece : String} {text rest : List Char} :
    behind? piece text = some rest ↔ text = piece.toList ++ rest := by
  rw [behind?, List.isPrefixOf?_eq_some_iff_append_eq]
  exact eq_comm

theorem behind?_eq_none_iff {piece : String} {text : List Char} : behind? piece text = none ↔ ¬ piece.toList <+: text := by
  rw [Option.eq_none_iff_forall_ne_some]
  constructor
  · rintro nothing ⟨rest, rfl⟩
    exact nothing rest (behind?_eq_some_iff.mpr rfl)
  · intro elsewhere rest found
    rw [behind?_eq_some_iff.mp found] at elsewhere
    exact elsewhere (List.prefix_append _ _)

section

variable {d : Delimiters} {close : String} {text rest : List Char} {trims : Bool}

/-- The trim mark counts only in front of a closer, and a closer behind one is found through it. -/
theorem closed?_eq (d : Delimiters) (close : String) (text : List Char) :
    closed? d close text =
      match (d.trim :: close.toList).isPrefixOf? text with
      | some rest => some (true, rest)
      | none => (behind? close text).map fun rest => (false, rest) := by
  cases text with
  | nil => rfl
  | cons c text =>
      by_cases isMark : c = d.trim
      · subst isMark
        cases found : close.toList.isPrefixOf? text with
        | none => simp [closed?, behind?, List.isPrefixOf?, found]
        | some rest => simp [closed?, behind?, List.isPrefixOf?, found]
      · simp [closed?, List.isPrefixOf?, isMark, Ne.symm isMark]

theorem closed?_eq_some (found : closed? d close text = some (trims, rest)) :
    text = trimMark d trims ++ close.toList ++ rest ∧ (trims = false → ¬ d.trim :: close.toList <+: text) := by
  rw [closed?_eq] at found
  cases marked : (d.trim :: close.toList).isPrefixOf? text with
  | some behind =>
      rw [marked] at found
      cases found
      exact ⟨(List.isPrefixOf?_eq_some_iff_append_eq.mp marked).symm, nofun⟩
  | none =>
      rw [marked] at found
      obtain ⟨behind, here, ⟨⟩⟩ := Option.map_eq_some_iff.mp found
      refine ⟨behind?_eq_some_iff.mp here, ?_⟩
      rintro - ⟨tail, same⟩
      rw [List.isPrefixOf?_eq_some_iff_append_eq.mpr same] at marked
      cases marked

theorem closed?_eq_none_iff : closed? d close text = none ↔ ¬ ClosesAt d close text := by
  constructor
  · rintro nothing closes
    rw [closed?_eq] at nothing
    cases marked : (d.trim :: close.toList).isPrefixOf? text with
    | some behind =>
        rw [marked] at nothing
        cases nothing
    | none =>
        rw [marked, Option.map_eq_none_iff, behind?_eq_none_iff] at nothing
        rcases closes with alone | ⟨tail, same⟩
        · exact nothing alone
        · rw [List.isPrefixOf?_eq_some_iff_append_eq.mpr same] at marked
          cases marked
  · intro open_
    cases found : closed? d close text with
    | none => rfl
    | some result =>
        obtain ⟨trims, rest⟩ := result
        obtain ⟨rfl, -⟩ := closed?_eq_some found
        refine absurd ?_ open_
        cases trims with
        | true => exact .inr (List.prefix_append _ _)
        | false => exact .inl (List.prefix_append _ _)

end

/-- Reading a region token by token without meeting its closer comes, behind the given tokens, to the place where the
given text starts: the next token, or the end of the region. -/
inductive Boundary (v : Vocabulary) (close : String) (isTag : Bool) (inside : List Char) :
    List (TokenKind × String) → List Char → Prop where
  | start : Boundary v close isTag inside [] (Text.trimStart inside)
  | behind {tokens : List (TokenKind × String)} {line : Nat} {first : Char} {more : List Char} {lexeme : Lexeme}
      (reached : Boundary v close isTag inside tokens (first :: more))
      (goesOn : ¬ ClosesAt v.delimiters close (first :: more))
      (read : readToken v (isTag && tokens.isEmpty) line first more = .ok lexeme) :
      Boundary v close isTag inside (tokens ++ [lexeme.token.face]) (Text.trimStart lexeme.rest)

section

variable {sum : Nat → Nat → Nat} {v : Vocabulary} {close : String} {isTag : Bool} {inside text : List Char}
  {tokens : List (TokenKind × String)}

theorem Boundary.suffix (reached : Boundary v close isTag inside tokens text) : text <:+ inside := by
  induction reached with
  | start => exact List.dropWhile_suffix _
  | behind _ _ read ih => exact (List.dropWhile_suffix _).trans ((readToken_spec read).1.trans ih)

theorem Boundary.kinds (reached : Boundary v close isTag inside tokens text) : ∀ face ∈ tokens, face.1 ∈ innerKinds := by
  induction reached with
  | start => nofun
  | behind _ _ read ih =>
      intro face member
      rcases List.mem_append.mp member with earlier | last
      · exact ih face earlier
      · cases List.mem_singleton.mp last
        exact (readToken_spec read).2

theorem readRegion_eq (sum : Nat → Nat → Nat) (v : Vocabulary) (close : String) (closer : TokenKind)
    (unterminated : LexError) (startsTag : Bool) (line : Nat) (text : List Char) :
    readRegion sum v close closer unterminated startsTag line text =
      let line := sum line (countLines (text.takeWhile Text.isBlank))
      match Text.trimStart text with
      | [] => .error unterminated
      | first :: more =>
        match closed? v.delimiters close (first :: more) with
        | some (trims, rest) => .ok ⟨[⟨closer, "", line⟩], line, trims, rest⟩
        | none =>
          match readToken v startsTag line first more with
          | .error e => .error e
          | .ok lexeme =>
            (readRegion sum v close closer unterminated false (sum line lexeme.lines) lexeme.rest).map fun done =>
              { done with tokens := lexeme.token :: done.tokens } := by
  rw [readRegion]
  dsimp only
  split
  · rename_i here
    rw [here]
  · rename_i first more here
    rw [here]
    dsimp only
    cases closed? v.delimiters close (first :: more) with
    | some found => rfl
    | none =>
        dsimp only
        split <;> rename_i read <;> rw [read]
        rfl

/-- What has been read of a region: its closer at once, or first a token that closes nothing and then the rest. -/
inductive RegionStep (sum : Nat → Nat → Nat) (v : Vocabulary) (close : String) (closer : TokenKind)
    (unterminated : LexError) (startsTag : Bool) (line : Nat) (text : List Char) : RegionEnd → Prop where
  | closed {trims : Bool} {rest : List Char} (closes : closed? v.delimiters close (Text.trimStart text) = some (trims, rest)) :
      RegionStep sum v close closer unterminated startsTag line text
        ⟨[⟨closer, "", sum line (countLines (text.takeWhile Text.isBlank))⟩],
          sum line (countLines (text.takeWhile Text.isBlank)), trims, rest⟩
  | token {first : Char} {more : List Char} {lexeme : Lexeme} {later : RegionEnd} (here : Text.trimStart text = first :: more)
      (goesOn : ¬ ClosesAt v.delimiters close (first :: more))
      (read : readToken v startsTag (sum line (countLines (text.takeWhile Text.isBlank))) first more = .ok lexeme)
      (shorter : lexeme.rest.length < text.length)
      (next : readRegion sum v close closer unterminated false
        (sum (sum line (countLines (text.takeWhile Text.isBlank))) lexeme.lines) lexeme.rest = .ok later) :
      RegionStep sum v close closer unterminated startsTag line text { later with tokens := lexeme.token :: later.tokens }

theorem regionStep_of_readRegion {closer : TokenKind} {unterminated : LexError} {startsTag : Bool} {line : Nat}
    {done : RegionEnd} (read : readRegion sum v close closer unterminated startsTag line text = .ok done) :
    RegionStep sum v close closer unterminated startsTag line text done := by
  rw [readRegion] at read
  split at read
  · cases read
  rename_i first more here
  split at read
  · rename_i trims rest found
    cases read
    exact .closed found
  · rename_i goesOn
    rw [here, closed?_eq_none_iff] at goesOn
    split at read
    · cases read
    rename_i lexeme one
    obtain ⟨later, next, ⟨⟩⟩ := bind_eq_ok.mp read
    have shorter : lexeme.rest.length < text.length :=
      calc lexeme.rest.length < (first :: more).length := length_readToken one
        _ ≤ text.length := here ▸ length_dropWhile_le _ _
    exact .token here goesOn one shorter next

/-- A region that is read ends at the first boundary where its closer stands. -/
theorem boundary_of_readRegion {closer : TokenKind} {unterminated : LexError} {startsTag : Bool} {line : Nat}
    {done : RegionEnd} (reached : Boundary v close isTag inside tokens (Text.trimStart text))
    (atStart : startsTag = (isTag && tokens.isEmpty))
    (read : readRegion sum v close closer unterminated startsTag line text = .ok done) :
    ∃ inner, done.tokens.map Token.face = inner ++ [(closer, "")] ∧
      Boundary v close isTag inside (tokens ++ inner)
        (trimMark v.delimiters done.trims ++ close.toList ++ done.rest) ∧
      (done.trims = false → ¬ v.delimiters.trim :: close.toList <+: close.toList ++ done.rest) := by
  induction size : text.length using Nat.strong_induction_on generalizing text tokens startsTag line done with
  | _ _ ih =>
      subst size
      cases regionStep_of_readRegion read with
      | closed closes =>
          obtain ⟨same, unmarked⟩ := closed?_eq_some closes
          rw [same] at reached unmarked
          refine ⟨[], rfl, by simpa using reached, fun plain => ?_⟩
          dsimp only at plain
          subst plain
          exact unmarked rfl
      | @token first more lexeme later here goesOn one shorter next =>
          rw [here] at reached
          subst atStart
          obtain ⟨inner, faces, boundary, unmarked⟩ :=
            ih _ shorter (reached.behind goesOn one) (by simp) next rfl
          refine ⟨lexeme.token.face :: inner, ?_, ?_, unmarked⟩
          · rw [List.map_cons, faces, List.cons_append]
          · rwa [List.append_assoc, List.singleton_append] at boundary

end

/-- A region of a source as it is written: an opener, perhaps a trim mark, what it encloses, perhaps another trim mark
and the closer. The faces of its tokens come with it. -/
structure Section where
  opener : Opener
  trimsBefore : Bool
  body : List Char
  trimsBehind : Bool
  tokens : List (TokenKind × String)

namespace Section

/-- What stands behind the opener and its trim mark, up to the closer. -/
def content (d : Delimiters) (s : Section) : List Char :=
  s.body ++ trimMark d s.trimsBehind

/-- What stands behind the opener. -/
def behindOpener (d : Delimiters) (s : Section) : List Char :=
  trimMark d s.trimsBefore ++ (s.content d ++ s.opener.closing.toList)

/-- The whole section. -/
def written (d : Delimiters) (s : Section) : List Char :=
  s.opener.opening.toList ++ s.behindOpener d

/-- The section of a tag or an expression, in front of the rest of its source, ends at the first boundary where its
closer stands. It does so through a trim mark if it can. -/
def EndsAtBoundary (v : Vocabulary) (isTag : Bool) (opens closes : TokenKind) (s : Section) (rest : List Char) : Prop :=
  ∃ inner, s.tokens = (opens, "") :: inner ++ [(closes, "")] ∧
    Boundary v s.opener.closing isTag (s.content v.delimiters ++ s.opener.closing.toList ++ rest) inner
      (trimMark v.delimiters s.trimsBehind ++ s.opener.closing.toList ++ rest) ∧
    (s.trimsBehind = false → ¬ v.delimiters.trim :: s.opener.closing.toList <+: s.opener.closing.toList ++ rest)

/-- A comment, in front of the rest of its source, ends with the first closer and has no tokens. It ends through a trim
mark if its content ends with one. -/
def EndsFirst (d : Delimiters) (s : Section) (rest : List Char) : Prop :=
  s.tokens = [] ∧
    (∀ place < (s.content d).length,
      ¬ StandsAt s.opener.closing.toList (s.content d ++ s.opener.closing.toList ++ rest) place) ∧
    (s.trimsBehind = true ↔ (s.content d).getLast? = some d.trim)

/-- A section ends where its kind asks for. -/
def Ends (v : Vocabulary) (s : Section) (rest : List Char) : Prop :=
  match s.opener.region with
  | .comment => s.EndsFirst v.delimiters rest
  | .tag => s.EndsAtBoundary v true .tagStart .tagEnd rest
  | .expression => s.EndsAtBoundary v false .expressionStart .expressionEnd rest

end Section

/-- A source consists of the given texts, each in front of its section, and a last text. Every section starts where an
opener first stands behind the section before, with the longest opener there; the trim mark behind an opener
belongs to it. -/
inductive Splits (v : Vocabulary) : List Char → List (List Char × Section) → List Char → Prop where
  | last {text : List Char}
      (nowhere : ∀ opener ∈ openers v.delimiters, ∀ place, ¬ StandsAt opener.opening.toList text place) :
      Splits v text [] text
  | region {text rest last : List Char} {s : Section} {pieces : List (List Char × Section)}
      (opens : Opens (openers v.delimiters) (text ++ s.written v.delimiters ++ rest) text.length s.opener)
      (marked : s.trimsBefore = true ↔ (s.behindOpener v.delimiters ++ rest).head? = some v.delimiters.trim)
      (ends : s.Ends v rest)
      (more : Splits v rest pieces last) :
      Splits v (text ++ s.written v.delimiters ++ rest) ((text, s) :: pieces) last

/-- What is left of a text between two sections. -/
def keptText (trimsStart trimsEnd : Bool) (text : List Char) : List Char :=
  let kept := if trimsStart then Text.trimStart text else text
  if trimsEnd then Text.trimEnd kept else kept

/-- What is left of each text; `trims` says whether blanks are removed from the start of the first one. -/
def keptTexts (trims : Bool) : List (List Char × Section) → List Char → List (List Char)
  | [], last => [keptText trims false last]
  | (text, s) :: pieces, last => keptText trims s.trimsBefore text :: keptTexts s.trimsBehind pieces last

/-- The face of a text, unless it is empty. -/
def textFaces (text : List Char) : List (TokenKind × String) :=
  if text.isEmpty then [] else [(.text, String.ofList text)]

/-- The faces of all tokens of a source. -/
def pieceFaces (trims : Bool) : List (List Char × Section) → List Char → List (TokenKind × String)
  | [], last => textFaces (keptText trims false last) ++ [(.eof, "")]
  | (text, s) :: pieces, last =>
    textFaces (keptText trims s.trimsBefore text) ++ s.tokens ++ pieceFaces s.trimsBehind pieces last

theorem face_textTokens (line : Nat) (trimsStart trimsEnd : Bool) (text : List Char) :
    (textTokens sum line trimsStart trimsEnd text).map Token.face = textFaces (keptText trimsStart trimsEnd text) := by
  unfold textTokens textFaces keptText
  dsimp only
  rw [apply_ite (List.map Token.face)]
  rfl

theorem exists_body (d : Delimiters) (text : List Char) :
    ∃ body, text = body ++ trimMark d (text.getLast? == some d.trim) := by
  cases last : text.getLast? == some d.trim with
  | false => exact ⟨text, (List.append_nil _).symm⟩
  | true =>
      obtain ⟨body, same⟩ := List.getLast?_eq_some_iff.mp (beq_iff_eq.mp last)
      exact ⟨body, same⟩

/-- What is behind the trim mark, where there is one. -/
def behindMark (d : Delimiters) (text : List Char) : List Char :=
  if text.head? == some d.trim then text.drop 1 else text

/-- A trim mark at the start of a text can be taken apart from it. -/
theorem trimMark_append (d : Delimiters) (text : List Char) :
    trimMark d (text.head? == some d.trim) ++ behindMark d text = text := by
  rw [behindMark]
  cases first : text.head? == some d.trim with
  | false => rfl
  | true =>
      obtain ⟨rest, rfl⟩ := List.head?_eq_some_iff.mp (beq_iff_eq.mp first)
      rfl

/-- A section that is read is one that ends where its kind asks for. -/
theorem exists_section {v : Vocabulary} {opener : Opener} {unterminated : LexError} {line : Nat} {inside : List Char}
    {done : RegionEnd} (trimsBefore : Bool) (read : readSection sum v opener unterminated line inside = .ok done) :
    ∃ s : Section, s.opener = opener ∧ s.trimsBefore = trimsBefore ∧ s.trimsBehind = done.trims ∧
      s.tokens = done.tokens.map Token.face ∧ inside = s.content v.delimiters ++ opener.closing.toList ++ done.rest ∧
      s.Ends v done.rest := by
  -- Tags and expressions differ only in what may start them and in the kinds of their delimiters.
  have atBoundary (opens : TokenKind) {closes : TokenKind} {isTag : Bool} {ended : RegionEnd}
      (regionRead : readRegion sum v opener.closing closes unterminated isTag line inside = .ok ended) :
      ∃ s : Section, s.opener = opener ∧ s.trimsBefore = trimsBefore ∧ s.trimsBehind = ended.trims ∧
        s.tokens = (opens, "") :: ended.tokens.map Token.face ∧
        inside = s.content v.delimiters ++ opener.closing.toList ++ ended.rest ∧
        s.EndsAtBoundary v isTag opens closes ended.rest := by
    obtain ⟨inner, faces, boundary, unmarked⟩ := boundary_of_readRegion .start (Bool.and_true _).symm regionRead
    obtain ⟨body, whole⟩ := boundary.suffix
    have split : inside = body ++ trimMark v.delimiters ended.trims ++ opener.closing.toList ++ ended.rest := by
      rw [← whole]
      simp only [List.append_assoc]
    refine ⟨⟨opener, trimsBefore, body, ended.trims, (opens, "") :: ended.tokens.map Token.face⟩, rfl, rfl, rfl, rfl,
      split, inner, ?_, ?_, unmarked⟩
    · rw [faces, List.cons_append]
    · dsimp only [Section.content]
      rw [← split]
      exact boundary
  unfold readSection at read
  unfold Section.Ends
  cases kind : opener.region with
  | tag =>
      rw [kind] at read
      obtain ⟨ended, regionRead, ⟨⟩⟩ := bind_eq_ok.mp read
      obtain ⟨s, rfl, before, behind, tokens, split, ends⟩ := atBoundary .tagStart regionRead
      refine ⟨s, rfl, before, behind, tokens, split, ?_⟩
      rw [kind]
      exact ends
  | expression =>
      rw [kind] at read
      obtain ⟨ended, regionRead, ⟨⟩⟩ := bind_eq_ok.mp read
      obtain ⟨s, rfl, before, behind, tokens, split, ends⟩ := atBoundary .expressionStart regionRead
      refine ⟨s, rfl, before, behind, tokens, split, ?_⟩
      rw [kind]
      exact ends
  | comment =>
      rw [kind] at read
      dsimp only [skipComment] at read
      split at read
      · cases read
      rename_i size found
      cases read
      obtain ⟨⟨behind, stands⟩, first⟩ := offsetOf?_eq_some_iff.mp found
      obtain ⟨body, content⟩ := exists_body v.delimiters (inside.take size)
      have split : inside = inside.take size ++ opener.closing.toList ++ inside.drop (size + opener.closing.length) := by
        rw [← List.drop_drop, ← stands, ← String.length_toList, List.drop_left, List.append_assoc, stands,
          List.take_append_drop]
      have long : (inside.take size).length ≤ size := List.length_take_le _ _
      refine ⟨⟨opener, trimsBefore, body, _, []⟩, rfl, rfl, rfl, rfl, ?_, ?_⟩
      · rwa [Section.content, ← content]
      · rw [kind]
        refine ⟨rfl, ?_, ?_⟩
        · rw [Section.content, ← content]
          dsimp only
          rw [← split]
          exact fun place before => first place (by omega)
        · rw [Section.content, ← content, beq_iff_eq]

variable {sum : Nat → Nat → Nat} {v : Vocabulary}

theorem marks_ne_nil (usable : v.delimiters.fault? = none) {opener : Opener} (member : opener ∈ openers v.delimiters) :
    opener.opening.toList ≠ [] ∧ opener.closing.toList ≠ [] := by
  have noneEmpty := (Option.or_eq_none_iff.mp usable).1
  rw [Option.map_eq_none_iff, List.find?_eq_none] at noneEmpty
  -- Every opener is one of the pairs.
  have fromPair : ∃ pair ∈ v.delimiters.pairs, opener.opening = pair.2.opening ∧ opener.closing = pair.2.closing := by
    rw [openers, List.mem_append, List.mem_cons, List.mem_singleton] at member
    rcases member with (rfl | rfl) | among
    · exact ⟨("tag", v.delimiters.tag), by simp [Delimiters.pairs], rfl, rfl⟩
    · exact ⟨("expression", v.delimiters.expression), by simp [Delimiters.pairs], rfl, rfl⟩
    · obtain ⟨pair, enabled, rfl⟩ := Option.map_eq_some_iff.mp (Option.mem_toList.mp among)
      exact ⟨("comment", pair), by simp [Delimiters.pairs, enabled], rfl, rfl⟩
  obtain ⟨pair, among, opens, closes⟩ := fromPair
  have inhabited := noneEmpty pair among
  rw [Bool.or_eq_true, not_or, String.isEmpty_iff, String.isEmpty_iff] at inhabited
  rw [opens, closes, ne_eq, ne_eq, String.toList_eq_nil_iff, String.toList_eq_nil_iff]
  exact inhabited

theorem opening_ne_nil (usable : v.delimiters.fault? = none) {opener : Opener} (member : opener ∈ openers v.delimiters) :
    opener.opening.toList ≠ [] :=
  (marks_ne_nil usable member).1

/-- What has been scanned: nothing, a text to the end, or a text with a section behind it and then the rest. Scanning stops
behind a section that takes nothing, which no usable delimiters give. -/
inductive ScanStep (sum : Nat → Nat → Nat) (v : Vocabulary) (finders : List Finder) (position line : Nat) (trims : Bool)
    (unread : List Char) : List Token → Prop where
  | done (nothing : unread = []) : ScanStep sum v finders position line trims unread [.eof line]
  | text (nowhere : chooseOpener finders position unread = none) :
      ScanStep sum v finders position line trims unread
        (textTokens sum line trims false unread ++ [.eof (sum line (countLines unread))])
  | region {place : Nat} {opener : Opener} {before behind : List Char} {unterminated : LexError} {done : RegionEnd}
      {later : List Token} (chosen : chooseOpener finders position unread = some (place, opener))
      (isBefore : before = unread.take (place - position))
      (isBehind : behind = (unread.drop (place - position)).drop opener.opening.length)
      (read : readSection sum v opener unterminated (sum line (countLines before)) (behindMark v.delimiters behind) =
        .ok done)
      (shorter : done.rest.length < unread.length)
      (next : scan sum v (finders.map (·.remember position unread)) (position + (unread.length - done.rest.length))
        done.line done.trims done.rest = .ok later) :
      ScanStep sum v finders position line trims unread
        (textTokens sum line trims (behind.head? == some v.delimiters.trim) before ++ done.tokens ++ later)
  | stuck {place : Nat} {opener : Opener} {before behind : List Char} {unterminated : LexError} {done : RegionEnd}
      (chosen : chooseOpener finders position unread = some (place, opener))
      (isBefore : before = unread.take (place - position))
      (isBehind : behind = (unread.drop (place - position)).drop opener.opening.length)
      (read : readSection sum v opener unterminated (sum line (countLines before)) (behindMark v.delimiters behind) =
        .ok done)
      (noShorter : ¬ done.rest.length < unread.length) :
      ScanStep sum v finders position line trims unread
        (textTokens sum line trims (behind.head? == some v.delimiters.trim) before ++ done.tokens)

theorem scanStep_of_scan {finders : List Finder} {position line : Nat} {trims : Bool} {unread : List Char}
    {tokens : List Token} (scanned : scan sum v finders position line trims unread = .ok tokens) :
    ScanStep sum v finders position line trims unread tokens := by
  rw [scan] at scanned
  split at scanned
  · rename_i nothing
    cases scanned
    exact .done (List.isEmpty_iff.mp nothing)
  split at scanned
  · rename_i nowhere
    cases scanned
    exact .text nowhere
  rename_i place opener chosen
  dsimp only at scanned
  split at scanned
  · cases scanned
  rename_i done read
  split at scanned
  · rename_i shorter
    obtain ⟨later, next, ⟨⟩⟩ := bind_eq_ok.mp scanned
    exact .region chosen rfl rfl read shorter next
  · rename_i noShorter
    cases scanned
    exact .stuck chosen rfl rfl read noShorter

theorem Tracks.behind {d : Delimiters} {finders : List Finder} {position : Nat} {unread rest : List Char}
    (tracks : Tracks d finders position unread) (suffix : rest <:+ unread) :
    Tracks d (finders.map (·.remember position unread)) (position + (unread.length - rest.length)) rest := by
  have further := tracks.advance (unread.length - rest.length)
  rwa [← List.suffix_iff_eq_drop.mp suffix] at further

/-- The section of a chosen opener takes at least the opener, and what it takes stands in front of the rest. -/
theorem section_of_chosen {finders : List Finder} {position place line : Nat} {unread behind : List Char}
    {opener : Opener} {unterminated : LexError} {done : RegionEnd} (usable : v.delimiters.fault? = none)
    (tracks : Tracks v.delimiters finders position unread)
    (chosen : chooseOpener finders position unread = some (place, opener))
    (isBehind : behind = (unread.drop (place - position)).drop opener.opening.length)
    (read : readSection sum v opener unterminated line (behindMark v.delimiters behind) = .ok done) :
    ∃ s : Section, s.opener = opener ∧ s.trimsBefore = (behind.head? == some v.delimiters.trim) ∧
      s.trimsBehind = done.trims ∧ s.tokens = done.tokens.map Token.face ∧ s.Ends v done.rest ∧
      behindMark v.delimiters behind = s.content v.delimiters ++ s.opener.closing.toList ++ done.rest ∧
      behind = s.behindOpener v.delimiters ++ done.rest ∧
      Opens (openers v.delimiters) unread (unread.take (place - position)).length s.opener ∧
      unread = unread.take (place - position) ++ s.written v.delimiters ++ done.rest ∧
      done.rest.length < unread.length := by
  obtain ⟨offset, rfl, opens⟩ := tracks.of_chooseOpener_eq_some chosen
  rw [Nat.add_sub_cancel_left] at isBehind ⊢
  obtain ⟨s, rfl, before, trimmed, faces, inside, ends⟩ := exists_section (behind.head? == some v.delimiters.trim) read
  have some_char := opening_ne_nil usable opens.member
  have room := opens.stands.leaves_room some_char
  have positive := List.length_pos_iff.mpr some_char
  have behindOpener : behind = s.behindOpener v.delimiters ++ done.rest := by
    rw [Section.behindOpener, List.append_assoc, ← inside, before]
    exact (trimMark_append _ _).symm
  have split : unread = unread.take offset ++ s.written v.delimiters ++ done.rest := by
    obtain ⟨rest, stands⟩ := opens.stands
    rw [← stands, ← String.length_toList, List.drop_left] at isBehind
    rw [Section.written, List.append_assoc, List.append_assoc, ← behindOpener, isBehind, stands, List.take_append_drop]
  have length : (unread.take offset).length = offset := List.length_take_of_le (by omega)
  refine ⟨s, rfl, before, trimmed, faces, ends, inside, behindOpener, by rwa [length], split, ?_⟩
  have total := congrArg List.length split
  simp only [Section.written, List.length_append] at total
  omega

theorem splits_of_scan {finders : List Finder} {position line : Nat} {trims : Bool} {unread : List Char}
    {tokens : List Token} (usable : v.delimiters.fault? = none) (tracks : Tracks v.delimiters finders position unread)
    (scanned : scan sum v finders position line trims unread = .ok tokens) :
    ∃ pieces last, Splits v unread pieces last ∧ tokens.map Token.face = pieceFaces trims pieces last := by
  induction size : unread.length using Nat.strong_induction_on
    generalizing unread finders position line trims tokens with
  | _ _ ih =>
      subst size
      cases scanStep_of_scan scanned with
      | done nothing =>
          subst nothing
          refine ⟨[], [], .last fun opener member place stands => ?_, ?_⟩
          · exact opening_ne_nil usable member (by simpa [StandsAt] using stands)
          · cases trims <;> rfl
      | text nowhere =>
          refine ⟨[], unread, .last (tracks.of_chooseOpener_eq_none nowhere), ?_⟩
          rw [List.map_append, face_textTokens]
          rfl
      | region chosen isBefore isBehind read shorter next =>
          obtain ⟨s, -, before, trimmed, faces, ends, -, behindOpener, opens, split, -⟩ :=
            section_of_chosen usable tracks chosen isBehind read
          rw [← isBefore] at opens split
          rename_i place opener text behind unterminated done later
          have further := tracks.behind (split ▸ List.suffix_append _ done.rest)
          obtain ⟨pieces, last, splits, all⟩ := ih _ shorter further next rfl
          refine ⟨(text, s) :: pieces, last, ?_, ?_⟩
          · nth_rewrite 1 [split]
            refine .region ?_ ?_ ends splits
            · rwa [← split]
            · rw [← behindOpener, before, beq_iff_eq]
          · rw [List.map_append, List.map_append, face_textTokens, all, ← faces, pieceFaces, before, trimmed]
      | stuck chosen _ isBehind read noShorter =>
          obtain ⟨-, -, -, -, -, -, -, -, -, -, shorter⟩ := section_of_chosen usable tracks chosen isBehind read
          exact absurd shorter noShorter

/-- The sections of a source and the texts between them are the whole source. -/
theorem Splits.whole {source last : List Char} {pieces : List (List Char × Section)} (splits : Splits v source pieces last) :
    source = pieces.flatMap (fun piece => piece.1 ++ piece.2.written v.delimiters) ++ last := by
  induction splits with
  | last => rfl
  | @region text rest last s pieces _ _ _ _ ih =>
      rw [List.flatMap_cons, List.append_assoc (_ ++ _), ← ih]

theorem Section.Ends.kinds {s : Section} {rest : List Char} (ends : s.Ends v rest) :
    ∀ face ∈ s.tokens, face.1 ∉ [TokenKind.text, .eof] := by
  unfold Section.Ends at ends
  have atBoundary {isTag : Bool} {opens closes : TokenKind}
      (delimits : opens ∉ [TokenKind.text, .eof] ∧ closes ∉ [TokenKind.text, .eof])
      (ends : s.EndsAtBoundary v isTag opens closes rest) : ∀ face ∈ s.tokens, face.1 ∉ [TokenKind.text, .eof] := by
    obtain ⟨inner, tokens, boundary, -⟩ := ends
    rw [tokens]
    intro face member
    rw [List.cons_append, List.mem_cons, List.mem_append, List.mem_singleton] at member
    rcases member with rfl | among | rfl
    · exact delimits.1
    · have disjoint : ∀ kind ∈ innerKinds, kind ∉ [TokenKind.text, .eof] := by simp [innerKinds]
      exact disjoint face.1 (boundary.kinds face among)
    · exact delimits.2
  split at ends
  · rw [ends.1]
    nofun
  · exact atBoundary (by simp) ends
  · exact atBoundary (by simp) ends

/-- The texts among the faces of a source are the texts that are left. -/
theorem Splits.texts {source last : List Char} {pieces : List (List Char × Section)} (splits : Splits v source pieces last)
    (trims : Bool) :
    (pieceFaces trims pieces last).filter (·.1 = .text) =
      (((keptTexts trims pieces last).filter (!·.isEmpty)).map fun text => (.text, String.ofList text)) := by
  have single (text : List Char) : (textFaces text).filter (·.1 = .text) =
      ([text].filter (!·.isEmpty)).map fun text => (.text, String.ofList text) := by
    cases text with
    | nil => rfl
    | cons c text => rfl
  induction splits generalizing trims with
  | last =>
      rw [pieceFaces, List.filter_append, single]
      exact List.append_nil _
  | @region text rest last s pieces _ _ ends _ ih =>
      have nothing : s.tokens.filter (·.1 = .text) = [] := by
        rw [List.filter_eq_nil_iff]
        intro face member
        rw [decide_eq_true_iff]
        exact fun isText => ends.kinds face member (isText ▸ List.mem_cons_self)
      rw [pieceFaces, keptTexts, List.filter_append, List.filter_append, nothing, single, ih, List.append_nil,
        ← List.map_append, ← List.filter_append]
      rfl

theorem Splits.ending {source last : List Char} {pieces : List (List Char × Section)} (splits : Splits v source pieces last)
    (trims : Bool) :
    ∃ front, pieceFaces trims pieces last = front ++ [(.eof, "")] ∧ ∀ face ∈ front, face.1 ≠ .eof := by
  have text (kept : List Char) : ∀ face ∈ textFaces kept, face.1 ≠ .eof := by
    cases kept with
    | nil => nofun
    | cons c kept => simp [textFaces]
  induction splits generalizing trims with
  | last => exact ⟨_, rfl, text _⟩
  | @region _ _ last s pieces _ _ ends _ ih =>
      obtain ⟨front, faces, inside⟩ := ih s.trimsBehind
      refine ⟨_, by rw [pieceFaces, faces, ← List.append_assoc], ?_⟩
      simp only [List.forall_mem_append]
      refine ⟨⟨text _, fun face member isEnd => ends.kinds face member ?_⟩, inside⟩
      simp [isEnd]

theorem keptTexts_of_plain {pieces : List (List Char × Section)}
    (plain : ∀ piece ∈ pieces, piece.2.trimsBefore = false ∧ piece.2.trimsBehind = false) (last : List Char) :
    keptTexts false pieces last = pieces.map Prod.fst ++ [last] := by
  induction pieces with
  | nil => rfl
  | cons piece pieces ih =>
      obtain ⟨⟨before, behind⟩, others⟩ := List.forall_mem_cons.mp plain
      rw [keptTexts, before, behind, ih others]
      rfl

/-- The values of the texts among some tokens. -/
def textValues (tokens : List Token) : List String :=
  (tokens.filter (·.kind = .text)).map Token.value

theorem textValues_eq (tokens : List Token) :
    textValues tokens = ((tokens.map Token.face).filter (·.1 = .text)).map Prod.snd := by
  rw [textValues, List.filter_map, List.map_map]
  rfl

theorem tokenize_ending {source : String} {tokens : List Token} (usable : v.delimiters.fault? = none)
    (tokenized : tokenize v source = .ok tokens) :
    ∃ front last, tokens = front ++ [last] ∧ last.kind = .eof ∧ ∀ token ∈ front, token.kind ≠ .eof := by
  obtain ⟨pieces, final, splits, faces⟩ := splits_of_scan usable (tracks_start _ _) tokenized
  obtain ⟨others, ending, inside⟩ := splits.ending false
  obtain ⟨front, rest, rfl, rfl, atEnd⟩ := List.map_eq_append_iff.mp (faces.trans ending)
  obtain ⟨last, rfl, ofEnd⟩ := List.map_eq_singleton_iff.mp atEnd
  refine ⟨front, last, rfl, congrArg Prod.fst ofEnd, fun token member => ?_⟩
  exact inside token.face (List.mem_map_of_mem member)

/-- Tokenizing loses nothing. A source that is tokenized is text with sections in it that start with the longest opener
where one first stands and end with its closer. The tokens are those of the sections, with a text between them for what
the sections leave of the source there, unless that is empty. -/
theorem tokenize_splits {source : String} {tokens : List Token} (usable : v.delimiters.fault? = none)
    (tokenized : tokenize v source = .ok tokens) :
    ∃ pieces last, Splits v source.toList pieces last ∧
      source.toList = pieces.flatMap (fun piece => piece.1 ++ piece.2.written v.delimiters) ++ last ∧
      tokens.map Token.face = pieceFaces false pieces last ∧
      textValues tokens = ((keptTexts false pieces last).filter (!·.isEmpty)).map String.ofList ∧
      ((∀ piece ∈ pieces, piece.2.trimsBefore = false ∧ piece.2.trimsBehind = false) →
        textValues tokens = ((pieces.map Prod.fst ++ [last]).filter (!·.isEmpty)).map String.ofList ∧
        (textValues tokens).flatMap String.toList = pieces.flatMap Prod.fst ++ last) := by
  obtain ⟨pieces, last, splits, faces⟩ := splits_of_scan usable (tracks_start _ _) tokenized
  have texts : textValues tokens = ((keptTexts false pieces last).filter (!·.isEmpty)).map String.ofList := by
    rw [textValues_eq, faces, splits.texts, List.map_map]
    rfl
  refine ⟨pieces, last, splits, splits.whole, faces, texts, fun plain => ?_⟩
  rw [keptTexts_of_plain plain] at texts
  refine ⟨texts, ?_⟩
  rw [texts, List.flatMap_def, List.map_map]
  have values : String.toList ∘ String.ofList = id := funext fun _ => String.toList_ofList
  rw [values, List.map_id, List.flatten_filter_not_isEmpty, List.flatten_append, List.flatMap_def]
  exact congrArg _ (List.append_nil _)

/-- Delimiters of which one opener is the start of the others. -/
def percentDelimiters : Delimiters where
  tag := ⟨"<%", "%>"⟩
  expression := ⟨"<%=", "%>"⟩
  comment := some ⟨"<%#", "%>"⟩

/-- A closer in quotes does not count, an opener in a comment does not either, and the mark between `<%` and `%>` belongs
to the opener. -/
theorem percentSource_splits :
    percentDelimiters.fault? = none ∧
      ∃ pieces last, Splits { delimiters := percentDelimiters } "a <%=- '%>' -%> b <%# <% -%>\n c<%-%> d".toList pieces last ∧
        ((keptTexts false pieces last).filter (!·.isEmpty)).map String.ofList = ["a", "b ", "c", " d"] := by
  have tokenized : tokenize { delimiters := percentDelimiters } "a <%=- '%>' -%> b <%# <% -%>\n c<%-%> d" =
      .ok [⟨.text, "a", 1⟩, ⟨.expressionStart, "", 1⟩, ⟨.string, "%>", 1⟩, ⟨.expressionEnd, "", 1⟩, ⟨.text, "b ", 1⟩,
        ⟨.text, "c", 2⟩, ⟨.tagStart, "", 2⟩, ⟨.tagEnd, "", 2⟩, ⟨.text, " d", 2⟩, ⟨.eof, "", 2⟩] := by
    decide +kernel
  obtain ⟨pieces, last, splits, -, -, texts, -⟩ := tokenize_splits rfl tokenized
  exact ⟨rfl, pieces, last, splits, texts.symm⟩

end Source

end Templating
