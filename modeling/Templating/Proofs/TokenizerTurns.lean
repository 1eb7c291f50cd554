import Mathlib.Logic.Relation
import Templating.Registry.Basic
import Templating.Proofs.SourceSplitting
import Templating.Proofs.AliasWriting

/-! # Turns of a tokenizer

Tokenizing is two loops, one over the regions of a source and one over the tokens of a region. Neither counts its turns, and
neither checks that a turn gets on: an empty symbol would be found again and again, and so would an empty opener in front of
an empty closer. With usable delimiters and symbols of at least one character, every turn leaves less of the source than
there was, so both loops end, and they end with what the recursions over the unread source give.
-/

namespace Templating

/-- What a turn of a loop comes to. -/
inductive Turn (σ α : Type) where
  | ended (result : α)
  | again (next : σ)
deriving DecidableEq

namespace Turn

variable {σ α : Type} {turn : σ → Turn σ α} {s next : σ} {a b : α}

/-- Turn by turn, a loop comes from one state to another. -/
def Reaches (turn : σ → Turn σ α) : σ → σ → Prop :=
  Relation.ReflTransGen fun s next => turn s = .again next

/-- A loop ends with a result. -/
def Yields (turn : σ → Turn σ α) (s : σ) (a : α) : Prop :=
  ∃ last, Reaches turn s last ∧ turn last = .ended a

theorem yields_of_ended (ended : turn s = .ended b) : Yields turn s a ↔ a = b := by
  constructor
  · rintro ⟨last, reached, result⟩
    rcases reached.cases_head with rfl | ⟨next, again, -⟩
    · rw [ended] at result
      cases result
      rfl
    · rw [ended] at again
      cases again
  · rintro rfl
    exact ⟨s, .refl, ended⟩

theorem yields_of_again (again : turn s = .again next) : Yields turn s a ↔ Yields turn next a := by
  constructor
  · rintro ⟨last, reached, result⟩
    rcases reached.cases_head with rfl | ⟨other, onward, rest⟩
    · rw [again] at result
      cases result
    · rw [again] at onward
      cases onward
      exact ⟨last, rest, result⟩
  · rintro ⟨last, reached, result⟩
    exact ⟨last, .head again reached, result⟩

theorem yields_iff (holds : σ → Prop) (size : σ → Nat) (value : σ → α)
    (ends : ∀ s a, holds s → turn s = .ended a → value s = a)
    (goesOn : ∀ s next, holds s → turn s = .again next → holds next ∧ size next < size s ∧ value s = value next)
    (start : holds s) : Yields turn s a ↔ a = value s := by
  induction small : size s using Nat.strong_induction_on generalizing s with
  | _ _ ih =>
      subst small
      cases onward : turn s with
      | ended b => rw [yields_of_ended onward, ends s b start onward]
      | again next =>
          obtain ⟨kept, shrinks, same⟩ := goesOn s next start onward
          rw [yields_of_again onward, same]
          exact ih _ shrinks kept rfl

/-- What a turn comes to, with its state seen in another way. -/
def map {τ : Type} (f : σ → τ) : Turn σ α → Turn τ α
  | ended result => ended result
  | again next => again (f next)

theorem map_eq_again {τ : Type} {f : σ → τ} {t : Turn σ α} {seen : τ} :
    t.map f = .again seen ↔ ∃ next, t = .again next ∧ f next = seen := by
  cases t <;> simp [map]

theorem map_eq_ended {τ : Type} {f : σ → τ} {t : Turn σ α} : t.map f = .ended a ↔ t = .ended a := by
  cases t <;> simp [map]

/-- Two loops whose turns are the same when seen in the same way end alike. -/
theorem yields_map_iff {τ : Type} {seen : τ → Turn τ α} (f : σ → τ) (holds : σ → Prop)
    (same : ∀ s, holds s → seen (f s) = (turn s).map f) (step : ∀ s next, holds s → turn s = .again next → holds next)
    (start : holds s) : Yields seen (f s) a ↔ Yields turn s a := by
  constructor
  · rintro ⟨last, reached, result⟩
    have origin : ∃ s', Reaches turn s s' ∧ holds s' ∧ f s' = last := by
      clear result
      induction reached with
      | refl => exact ⟨s, .refl, start, rfl⟩
      | tail _ again ih =>
          obtain ⟨s', reached, held, rfl⟩ := ih
          rw [same s' held, map_eq_again] at again
          obtain ⟨next, again, rfl⟩ := again
          exact ⟨next, reached.tail again, step s' next held again, rfl⟩
    obtain ⟨s', came, held, rfl⟩ := origin
    rw [same s' held, map_eq_ended] at result
    exact ⟨s', came, result⟩
  · rintro ⟨last, reached, result⟩
    have seenToo : Reaches seen (f s) (f last) ∧ holds last := by
      clear result
      induction reached with
      | refl => exact ⟨.refl, start⟩
      | tail _ again ih =>
          obtain ⟨reached, held⟩ := ih
          exact ⟨reached.tail (by rw [same _ held, again, map]), step _ _ held again⟩
    obtain ⟨reached, held⟩ := seenToo
    exact ⟨f last, reached, by rw [same last held, result, map]⟩

/-- What holds at the start of a loop and goes on from turn to turn holds wherever the loop comes. -/
theorem Reaches.induction {holds : σ → Prop} (start : holds s) (reached : Reaches turn s next)
    (step : ∀ s next, holds s → turn s = .again next → holds next) : holds next := by
  induction reached with
  | refl => exact start
  | tail _ again ih => exact step _ _ ih again

end Turn

namespace Source

open Turn (Reaches Yields yields_iff)

/-- Something is read of a text, and the rest is left. -/
def Advances (text rest : List Char) : Prop :=
  ∃ read, read ≠ [] ∧ text = read ++ rest

section

variable {text rest : List Char}

theorem advances_of_suffix (suffix : rest <:+ text) (shorter : rest.length < text.length) : Advances text rest := by
  obtain ⟨read, rfl⟩ := suffix
  refine ⟨read, ?_, rfl⟩
  rintro rfl
  simp at shorter

theorem Advances.shorter (advances : Advances text rest) : rest.length < text.length := by
  obtain ⟨read, some_char, rfl⟩ := advances
  have positive := List.length_pos_iff.mpr some_char
  rw [List.length_append]
  omega

theorem Advances.of_trimStart (advances : Advances (Text.trimStart text) rest) : Advances text rest := by
  obtain ⟨read, some_char, split⟩ := advances
  refine ⟨text.takeWhile Text.isBlank ++ read, by simp [some_char], ?_⟩
  rw [List.append_assoc, ← split]
  exact List.takeWhile_append_dropWhile.symm

end

variable {v : Vocabulary} {close : String} {closer : TokenKind} {unterminated : LexError}

/-- The first symbol of a vocabulary that stands at the start of a text, an empty one too. -/
def firstSymbol? (v : Vocabulary) (text : List Char) : Option String :=
  v.symbols.find? fun symbol => symbol.toList.isPrefixOf text

/-- Reads the token at the start of a text with whatever symbol comes first. -/
def nextToken (v : Vocabulary) (startsTag : Bool) (line : Nat) (first : Char) (more : List Char) :
    Except LexError Lexeme :=
  let text := first :: more
  if first = '"' ∨ first = '\'' then
    match readQuoted first more with
    | some (value, lines, rest) => .ok ⟨⟨.string, String.ofList value, line⟩, lines, rest⟩
    | none => .error (.atPlace .unterminatedString line text)
  else if first.isDigit then
    let (digits, rest) := readNumber text
    .ok ⟨⟨.literal, String.ofList digits, line⟩, 0, rest⟩
  else if startsWord first then
    let word := String.ofList (first :: more.takeWhile continuesWord)
    .ok ⟨⟨wordKind v startsTag word, word, line⟩, 0, more.dropWhile continuesWord⟩
  else
    match firstSymbol? v text with
    | some symbol => .ok ⟨⟨.operator, symbol, line⟩, 0, text.drop symbol.length⟩
    | none =>
      if punctuation.contains first then .ok ⟨⟨.punctuation, String.singleton first, line⟩, 0, more⟩
      else .error (.atPlace (.invalidCharacter first) line text)

theorem nextToken_eq (inhabited : ∀ symbol ∈ v.symbols, symbol ≠ "") (startsTag : Bool) (line : Nat) (first : Char)
    (more : List Char) : nextToken v startsTag line first more = readToken v startsTag line first more := by
  have same : firstSymbol? v = symbolAt? v := by
    funext text
    apply List.find?_congr
    intro symbol member
    simp [inhabited symbol member]
  rw [nextToken, same]
  rfl

/-- Where the loop over the tokens of a region stands. -/
structure RegionState where
  tokens : List Token := []
  startsTag : Bool
  line : Nat
  unread : List Char

/-- What is to come of the loop over the tokens of a region. -/
def RegionState.result (v : Vocabulary) (close : String) (closer : TokenKind) (unterminated : LexError) (s : RegionState) :
    Except LexError RegionEnd :=
  (readRegion wordBehind v close closer unterminated s.startsTag s.line s.unread).map fun done =>
    { done with tokens := s.tokens ++ done.tokens }

/-- A turn of the loop over the tokens of a region: it passes blanks, and ends the region or reads a token. -/
def regionTurn (v : Vocabulary) (close : String) (closer : TokenKind) (unterminated : LexError) (s : RegionState) :
    Turn RegionState (Except LexError RegionEnd) :=
  let line := wordBehind s.line (countLines (s.unread.takeWhile Text.isBlank))
  match Text.trimStart s.unread with
  | [] => .ended (.error unterminated)
  | first :: more =>
    match closed? v.delimiters close (first :: more) with
    | some (trims, rest) => .ended (.ok ⟨s.tokens ++ [⟨closer, "", line⟩], line, trims, rest⟩)
    | none =>
      match nextToken v s.startsTag line first more with
      | .error e => .ended (.error e)
      | .ok lexeme => .again ⟨s.tokens ++ [lexeme.token], false, wordBehind line lexeme.lines, lexeme.rest⟩

section

variable {s next : RegionState} {done : RegionEnd} {last : Except LexError RegionEnd}

theorem advances_of_regionTurn (inhabited : ∀ symbol ∈ v.symbols, symbol ≠ "")
    (again : regionTurn v close closer unterminated s = .again next) : Advances s.unread next.unread := by
  simp only [regionTurn, nextToken_eq inhabited] at again
  split at again
  · cases again
  rename_i first more here
  split at again
  · cases again
  split at again <;> cases again
  rename_i lexeme read
  apply Advances.of_trimStart
  rw [here]
  exact advances_of_suffix (readToken_spec read).1 (length_readToken read)

theorem advances_of_regionEnd (some_char : close.toList ≠ [])
    (ended : regionTurn v close closer unterminated s = .ended (.ok done)) : Advances s.unread done.rest := by
  simp only [regionTurn] at ended
  split at ended
  · cases ended
  rename_i first more here
  split at ended
  · rename_i trims rest closes
    cases ended
    apply Advances.of_trimStart
    rw [here]
    exact ⟨_, by simp [some_char], (closed?_eq_some closes).1⟩
  · split at ended <;> cases ended

theorem result_of_regionEnd (inhabited : ∀ symbol ∈ v.symbols, symbol ≠ "")
    (ended : regionTurn v close closer unterminated s = .ended last) : s.result v close closer unterminated = last := by
  rw [RegionState.result, readRegion_eq]
  simp only [regionTurn, nextToken_eq inhabited] at ended
  split at ended
  · rename_i here
    cases ended
    simp only [here, Except.map]
  rename_i first more here
  split at ended
  · rename_i closes
    cases ended
    simp only [here, closes, Except.map]
  rename_i goesOn
  split at ended <;> cases ended
  rename_i read
  simp only [here, goesOn, read, Except.map]

theorem result_of_regionTurn (inhabited : ∀ symbol ∈ v.symbols, symbol ≠ "")
    (again : regionTurn v close closer unterminated s = .again next) :
    s.result v close closer unterminated = next.result v close closer unterminated := by
  rw [RegionState.result, readRegion_eq]
  simp only [regionTurn, nextToken_eq inhabited] at again
  split at again
  · cases again
  rename_i first more here
  split at again
  · cases again
  rename_i goesOn
  split at again <;> cases again
  rename_i lexeme read
  simp only [here, goesOn, read, RegionState.result]
  cases readRegion wordBehind v close closer unterminated false _ lexeme.rest with
  | error e => rfl
  | ok done => simp [Except.map]

/-- The loop over the tokens of a region ends with what the recursion over its text gives. -/
theorem region_yields (inhabited : ∀ symbol ∈ v.symbols, symbol ≠ "") (s : RegionState)
    (last : Except LexError RegionEnd) :
    Yields (regionTurn v close closer unterminated) s last ↔ last = s.result v close closer unterminated := by
  refine yields_iff (fun _ => True) (·.unread.length) _ (fun s last _ => result_of_regionEnd inhabited) ?_ trivial
  intro s next _ again
  exact ⟨trivial, (advances_of_regionTurn inhabited again).shorter, result_of_regionTurn inhabited again⟩

end

/-- Where the loop over the regions of a source stands. -/
structure ScanState where
  tokens : List Token := []
  finders : List Finder
  position : Nat := 0
  line : Nat := 1
  trims : Bool := false
  unread : List Char
deriving DecidableEq

/-- The start of the loop over the regions of a source. -/
def ScanState.start (v : Vocabulary) (source : List Char) : ScanState where
  finders := (openers v.delimiters).map fun opener => { opener := opener }
  unread := source

/-- What is to come of the loop over the regions of a source. -/
def ScanState.result (v : Vocabulary) (s : ScanState) : Except LexError (List Token) :=
  (scan wordBehind v s.finders s.position s.line s.trims s.unread).map (s.tokens ++ ·)

/-- Reads the text in front of an opener that stands some way ahead, and the region behind it. -/
def readOpened (v : Vocabulary) (line : Nat) (trims : Bool) (unread : List Char) (offset : Nat) (opener : Opener) :
    Except LexError RegionEnd := do
  let before := unread.take offset
  let region := unread.drop offset
  let behind := region.drop opener.opening.length
  let trimsBefore := behind.head? == some v.delimiters.trim
  let openLine := wordBehind line (countLines before)
  let unterminated := LexError.atPlace (.unterminatedRegion opener.region) openLine region
  let done ← readSection wordBehind v opener unterminated openLine (behindMark v.delimiters behind)
  return { done with tokens := textTokens wordBehind line trims trimsBefore before ++ done.tokens }

/-- A turn of the loop over the regions of a source: it ends at the end of the source or behind the last region, or reads
a text and the region behind it. -/
def scanTurn (v : Vocabulary) (s : ScanState) : Turn ScanState (Except LexError (List Token)) :=
  if s.unread.isEmpty then .ended (.ok (s.tokens ++ [.eof s.line]))
  else
    match chooseOpener s.finders s.position s.unread with
    | none =>
      .ended (.ok (s.tokens ++ (textTokens wordBehind s.line s.trims false s.unread ++
        [.eof (wordBehind s.line (countLines s.unread))])))
    | some (place, opener) =>
      match readOpened v s.line s.trims s.unread (place - s.position) opener with
      | .error e => .ended (.error e)
      | .ok done => .again {
          tokens := s.tokens ++ done.tokens
          finders := s.finders.map (·.remember s.position s.unread)
          position := s.position + (s.unread.length - done.rest.length)
          line := done.line
          trims := done.trims
          unread := done.rest }

/-- The loop over the regions of a source stands at a position of it, and no finder remembers what does not hold there. -/
structure Underway (v : Vocabulary) (source : List Char) (s : ScanState) : Prop where
  within : s.position ≤ source.length
  unread : s.unread = source.drop s.position
  tracks : Tracks v.delimiters s.finders s.position s.unread

section

variable {source : List Char} {s next : ScanState} {last : Except LexError (List Token)}

theorem underway_start (v : Vocabulary) (source : List Char) : Underway v source (.start v source) :=
  ⟨Nat.zero_le _, rfl, tracks_start _ _⟩

theorem suffix_of_readOpened {line offset : Nat} {trims : Bool} {unread : List Char} {opener : Opener} {done : RegionEnd}
    (read : readOpened v line trims unread offset opener = .ok done) : done.rest <:+ unread := by
  obtain ⟨inner, within, ⟨⟩⟩ := bind_eq_ok.mp read
  obtain ⟨_, -, -, -, -, inside, -⟩ := exists_section false within
  have marked : behindMark v.delimiters ((unread.drop offset).drop opener.opening.length) <:+
      (unread.drop offset).drop opener.opening.length :=
    ⟨_, trimMark_append _ _⟩
  rw [inside] at marked
  exact (List.suffix_append _ _).trans (marked.trans ((List.drop_suffix _ _).trans (List.drop_suffix _ _)))

/-- What a turn leaves of a source is an end of it, and less than there was if the delimiters are usable. -/
theorem unread_of_scanTurn (tracks : Tracks v.delimiters s.finders s.position s.unread)
    (again : scanTurn v s = .again next) :
    next.unread <:+ s.unread ∧ next.position = s.position + (s.unread.length - next.unread.length) ∧
      next.finders = s.finders.map (·.remember s.position s.unread) ∧
      (v.delimiters.fault? = none → next.unread.length < s.unread.length) := by
  simp only [scanTurn] at again
  split at again
  · cases again
  split at again
  · cases again
  rename_i place opener chosen
  split at again <;> cases again
  rename_i done read
  refine ⟨suffix_of_readOpened read, rfl, rfl, fun usable => ?_⟩
  obtain ⟨inner, within, ⟨⟩⟩ := bind_eq_ok.mp read
  obtain ⟨-, -, -, -, -, -, -, -, -, -, shorter⟩ := section_of_chosen usable tracks chosen rfl within
  exact shorter

theorem Underway.step (underway : Underway v source s) (again : scanTurn v s = .again next) :
    Underway v source next := by
  obtain ⟨suffix, position, finders, -⟩ := unread_of_scanTurn underway.tracks again
  have whole := suffix.trans (underway.unread ▸ List.drop_suffix _ _)
  have size := congrArg List.length underway.unread
  have shorter := suffix.length_le
  have within := underway.within
  rw [List.length_drop] at size
  refine ⟨by omega, ?_, ?_⟩
  · have read : next.position = source.length - next.unread.length := by omega
    rw [read]
    exact List.suffix_iff_eq_drop.mp whole
  · rw [position, finders]
    exact underway.tracks.behind suffix

/-- Wherever the loop over the regions of a source comes, it stands at a position of the source. -/
theorem underway_of_reaches (reached : Reaches (scanTurn v) (.start v source) s) : Underway v source s :=
  reached.induction (underway_start v source) fun _ _ underway again => underway.step again

theorem Underway.shorter (usable : v.delimiters.fault? = none) (underway : Underway v source s)
    (again : scanTurn v s = .again next) : next.unread.length < s.unread.length :=
  (unread_of_scanTurn underway.tracks again).2.2.2 usable

theorem Underway.position_lt (usable : v.delimiters.fault? = none) (underway : Underway v source s)
    (again : scanTurn v s = .again next) : s.position < next.position := by
  have shorter := underway.shorter usable again
  obtain ⟨-, position, -⟩ := unread_of_scanTurn underway.tracks again
  omega

theorem result_of_scanEnd (ended : scanTurn v s = .ended last) : s.result v = last := by
  simp only [scanTurn] at ended
  split at ended
  · cases ended
    rename_i nothing
    rw [ScanState.result, scan, if_pos nothing]
    rfl
  rename_i something
  split at ended
  · rename_i nowhere
    cases ended
    rw [ScanState.result, scan, if_neg something, nowhere]
    rfl
  rename_i place opener chosen
  split at ended <;> cases ended
  rename_i e read
  rcases bind_eq_error.mp read with failed | ⟨inner, -, ⟨⟩⟩
  unfold behindMark at failed
  rw [ScanState.result, scan, if_neg something, chosen]
  dsimp only
  rw [failed]
  rfl

theorem result_of_scanTurn (again : scanTurn v s = .again next) (shorter : next.unread.length < s.unread.length) :
    s.result v = next.result v := by
  simp only [scanTurn] at again
  split at again
  · cases again
  rename_i something
  split at again
  · cases again
  rename_i place opener chosen
  split at again <;> cases again
  rename_i done read
  obtain ⟨inner, within, ⟨⟩⟩ := bind_eq_ok.mp read
  unfold behindMark at within
  rw [ScanState.result, scan, if_neg something, chosen]
  dsimp only at shorter ⊢
  rw [within]
  dsimp only
  rw [if_pos shorter, ScanState.result]
  cases scan wordBehind v (s.finders.map (·.remember s.position s.unread))
      (s.position + (s.unread.length - inner.rest.length)) inner.line inner.trims inner.rest with
  | error e => rfl
  | ok later => exact congrArg Except.ok (List.append_assoc _ _ _).symm

/-- The loop over the regions of a source ends with what the recursion over the unread source gives. -/
theorem scan_yields (usable : v.delimiters.fault? = none) (underway : Underway v source s) :
    Yields (scanTurn v) s last ↔ last = s.result v := by
  refine yields_iff (Underway v source) (·.unread.length) _ (fun s last _ => result_of_scanEnd) ?_ underway
  intro s next underway again
  have shorter := underway.shorter usable again
  exact ⟨underway.step again, shorter, result_of_scanTurn again shorter⟩

theorem result_start (v : Vocabulary) (source : String) :
    (ScanState.start v source.toList).result v = tokenize v source := by
  unfold ScanState.result tokenize tokenizeBy ScanState.start
  cases scan wordBehind v _ 0 1 false source.toList with
  | error e => rfl
  | ok tokens => rfl

end

/-- The symbols of a vocabulary that registries give are words of aliases, and those are not empty. -/
theorem symbols_vocabulary_ne_empty (r : Registries) (d : Delimiters) : ∀ symbol ∈ (r.vocabulary d).symbols, symbol ≠ "" := by
  intro symbol member
  obtain ⟨spelling, among⟩ := OperatorRegistry.mem_words_of_aliasPieces (Registries.mem_symbols_vocabulary.mp member).1
  exact (Text.mem_words among).1

/-- With usable delimiters and no empty symbol, a turn of the loop over the tokens of a region reads something of it, whether
the region goes on or ends, and a turn of the loop over the regions of a source gets on in the source. So both loops end, and
with what the recursions over the unread source give. The symbols that registries give are not empty. -/
theorem tokenize_advances :
    (∀ v : Vocabulary, v.delimiters.fault? = none → (∀ symbol ∈ v.symbols, symbol ≠ "") →
      (∀ opener ∈ openers v.delimiters, ∀ closer unterminated s,
        (∀ next, regionTurn v opener.closing closer unterminated s = .again next → Advances s.unread next.unread) ∧
        (∀ done, regionTurn v opener.closing closer unterminated s = .ended (.ok done) → Advances s.unread done.rest) ∧
        ∀ last, Yields (regionTurn v opener.closing closer unterminated) s last ↔
          last = s.result v opener.closing closer unterminated) ∧
      ∀ source : String,
        (∀ s, Reaches (scanTurn v) (.start v source.toList) s →
          s.position ≤ source.length ∧ s.unread = source.toList.drop s.position ∧
            ∀ next, scanTurn v s = .again next → s.position < next.position) ∧
        ∀ last, Yields (scanTurn v) (.start v source.toList) last ↔ last = tokenize v source) ∧
    ∀ (r : Registries) (d : Delimiters), ∀ symbol ∈ (r.vocabulary d).symbols, symbol ≠ "" := by
  refine ⟨fun v usable inhabited => ⟨?_, fun source => ⟨?_, ?_⟩⟩, symbols_vocabulary_ne_empty⟩
  · intro opener member closer unterminated s
    have some_char := (marks_ne_nil usable member).2
    exact ⟨fun next => advances_of_regionTurn inhabited, fun done => advances_of_regionEnd some_char,
      region_yields inhabited s⟩
  · intro s reached
    have underway := underway_of_reaches reached
    refine ⟨?_, underway.unread, fun next again => underway.position_lt usable again⟩
    rw [← String.length_toList]
    exact underway.within
  · intro last
    rw [scan_yields usable (underway_start v source.toList), result_start]

/-- Delimiters of which one opener is the start of the others, with two symbols of which one is the start of the other. -/
def percentVocabulary : Vocabulary where
  delimiters := percentDelimiters
  symbols := ["<=", "<"]

def percentSource : String := "<%-%> <%= 1 <= 2 %><%# -%> "

/-- Where the loop over the regions of `percentSource` stands behind the empty tag, whose opener takes the trim mark. -/
def behindTag : ScanState where
  tokens := [⟨.tagStart, "", 1⟩, ⟨.tagEnd, "", 1⟩]
  finders := [⟨⟨.tag, "<%", "%>"⟩, some (some 0)⟩, ⟨⟨.expression, "<%=", "%>"⟩, some (some 6)⟩,
    ⟨⟨.comment, "<%#", "%>"⟩, some (some 19)⟩]
  position := 5
  unread := " <%= 1 <= 2 %><%# -%> ".toList

def behindComparison : ScanState where
  tokens := behindTag.tokens ++ [⟨.text, " ", 1⟩, ⟨.expressionStart, "", 1⟩, ⟨.literal, "1", 1⟩, ⟨.operator, "<=", 1⟩,
    ⟨.literal, "2", 1⟩, ⟨.expressionEnd, "", 1⟩]
  finders := [⟨⟨.tag, "<%", "%>"⟩, some (some 6)⟩, ⟨⟨.expression, "<%=", "%>"⟩, some (some 6)⟩,
    ⟨⟨.comment, "<%#", "%>"⟩, some (some 19)⟩]
  position := 19
  unread := "<%# -%> ".toList

theorem percentSource_advances :
    percentVocabulary.delimiters.fault? = none ∧ (∀ symbol ∈ percentVocabulary.symbols, symbol ≠ "") ∧
      Reaches (scanTurn percentVocabulary) (.start percentVocabulary percentSource.toList) behindTag ∧
      scanTurn percentVocabulary behindTag = .again behindComparison ∧ behindTag.position < behindComparison.position ∧
      Yields (scanTurn percentVocabulary) (.start percentVocabulary percentSource.toList)
        (.ok (behindComparison.tokens ++ [⟨.eof, "", 1⟩])) := by
  have usable : percentVocabulary.delimiters.fault? = none := by decide
  have inhabited : ∀ symbol ∈ percentVocabulary.symbols, symbol ≠ "" := by decide
  have reached : Reaches (scanTurn percentVocabulary) (.start percentVocabulary percentSource.toList) behindTag :=
    .single (by decide +kernel)
  have again : scanTurn percentVocabulary behindTag = .again behindComparison := by decide +kernel
  obtain ⟨turns, yields⟩ := (tokenize_advances.1 percentVocabulary usable inhabited).2 percentSource
  obtain ⟨-, -, further⟩ := turns behindTag reached
  exact ⟨usable, inhabited, reached, again, further behindComparison again, (yields _).mpr (by decide +kernel)⟩

end Source

end Templating
