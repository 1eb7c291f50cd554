import Templating.Token.Stream

/-! # Streams of tokens as lists with an end

The tokens of a stream can be kept in one vector with a place in it: passing tokens moves the place, but never behind the
last token, and a token is put in front by inserting it at the place. A stream keeps the tokens on both sides of the place,
and whatever is done with it, it answers like the vector. Both answer like the list of the tokens to come, of which the last
one stays where it is, as long as the places asked for are words. A sum that is no word wraps around.
-/

namespace Templating

/-- What can be done with the tokens to come. -/
inductive StreamOperation where
  | current
  | peek (offset : Nat)
  | remaining
  | isAtEnd
  | test (patterns : List TokenPattern)
  | testAt (offset : Nat) (pattern : TokenPattern)
  | testSequence (patterns : List TokenPattern)
  | advance
  | skip (count : Nat)
  | expect (kind : TokenKind) (value : Option String)
  | expectOneOf (patterns : List TokenPattern)
  | push (kind : TokenKind) (value : String)

/-- What an operation answers. -/
inductive StreamAnswer where
  | token (token : Token)
  | tokens (tokens : List Token)
  | truth (holds : Bool)
  | refused (e : ParseError)
  | done

section

variable {σ τ : Type}

/-- Operations one after another, with their answers. -/
def performAll (perform : σ → StreamOperation → StreamAnswer × σ) : σ → List StreamOperation → List StreamAnswer × σ
  | s, [] => ([], s)
  | s, operation :: operations =>
    let (answer, next) := perform s operation
    let (answers, last) := performAll perform next operations
    (answer :: answers, last)

/-- A way to keep tokens: the operations that the others are made of. -/
structure Keeping (σ : Type) where
  peek : σ → Nat → Token
  remaining : σ → List Token
  skip : σ → Nat → σ
  push : σ → Token → σ

/-- The operations on kept tokens. A token that is put in front gets the line of the one that was next. -/
def Keeping.perform (keeping : Keeping σ) (s : σ) : StreamOperation → StreamAnswer × σ
  | .current => (.token (keeping.peek s 0), s)
  | .peek offset => (.token (keeping.peek s offset), s)
  | .remaining => (.tokens (keeping.remaining s), s)
  | .isAtEnd => (.truth ((keeping.peek s 0).kind == .eof), s)
  | .test patterns => (.truth (patterns.any fun pattern => pattern.accepts (keeping.peek s 0)), s)
  | .testAt offset pattern => (.truth (pattern.accepts (keeping.peek s offset)), s)
  | .testSequence patterns =>
    (.truth (patterns.zipIdx.all fun pattern => pattern.1.accepts (keeping.peek s pattern.2)), s)
  | .advance => (.token (keeping.peek s 0), keeping.skip s 1)
  | .skip count => (.done, keeping.skip s count)
  | .expect kind value =>
    if TokenStream.fits (keeping.peek s 0) kind value then (.token (keeping.peek s 0), keeping.skip s 1)
    else (.refused (.unexpected (TokenStream.expectation kind value) (keeping.peek s 0)), s)
  | .expectOneOf patterns =>
    if patterns.any fun pattern => pattern.accepts (keeping.peek s 0) then
      (.token (keeping.peek s 0), keeping.skip s 1)
    else
      let expected :=
        match patterns with
        | [pattern] => pattern.describe
        | _ => "one of: " ++ String.intercalate ", " (patterns.map TokenPattern.describe)
      (.refused (.unexpected expected (keeping.peek s 0)), s)
  | .push kind value => (.done, keeping.push s ⟨kind, value, (keeping.peek s 0).line⟩)

/-- Two ways to keep tokens that keep the same ones in related states, whatever is done. -/
structure Keeping.Alike (first : Keeping σ) (second : Keeping τ) (related : σ → τ → Prop) : Prop where
  peek : ∀ {s t}, related s t → ∀ offset, first.peek s offset = second.peek t offset
  remaining : ∀ {s t}, related s t → first.remaining s = second.remaining t
  skip : ∀ {s t}, related s t → ∀ count, related (first.skip s count) (second.skip t count)
  push : ∀ {s t}, related s t → ∀ token, related (first.push s token) (second.push t token)

namespace Keeping.Alike

variable {first : Keeping σ} {second : Keeping τ} {related : σ → τ → Prop} {s : σ} {t : τ}

theorem perform (alike : first.Alike second related) (same : related s t) (operation : StreamOperation) :
    (first.perform s operation).1 = (second.perform t operation).1 ∧
      related (first.perform s operation).2 (second.perform t operation).2 := by
  have peek := alike.peek same
  cases operation with
  | remaining => exact ⟨congrArg _ (alike.remaining same), same⟩
  | advance => exact ⟨congrArg _ (peek 0), alike.skip same 1⟩
  | skip count => exact ⟨rfl, alike.skip same count⟩
  | push kind value =>
      simp only [Keeping.perform, peek]
      exact ⟨trivial, alike.push same _⟩
  | expect | expectOneOf =>
      simp only [Keeping.perform, peek]
      split
      · exact ⟨rfl, alike.skip same 1⟩
      · exact ⟨rfl, same⟩
  | current | peek | isAtEnd | test | testAt | testSequence =>
      simp only [Keeping.perform, peek]
      exact ⟨trivial, same⟩

theorem performAll (alike : first.Alike second related) (same : related s t) (operations : List StreamOperation) :
    (Templating.performAll first.perform s operations).1 = (Templating.performAll second.perform t operations).1 ∧
      related (Templating.performAll first.perform s operations).2
        (Templating.performAll second.perform t operations).2 := by
  induction operations generalizing s t with
  | nil => exact ⟨rfl, same⟩
  | cons operation operations ih =>
      obtain ⟨answer, next⟩ := alike.perform same operation
      obtain ⟨answers, last⟩ := ih next
      exact ⟨by simp only [Templating.performAll, answer, answers], last⟩

end Keeping.Alike

end

/-- The token `offset` places behind the first one, or the last one. -/
def tokenAt (tokens : List Token) (offset : Nat) : Token :=
  tokens.getD offset (tokens.getLastD (.eof 1))

theorem getElem?_tokenAt {tokens : List Token} (positive : 0 < tokens.length) (offset : Nat) :
    tokens[min offset (tokens.length - 1)]? = some (tokenAt tokens offset) := by
  rw [tokenAt, List.getD_eq_getElem?_getD, List.getLastD_eq_getLast?, List.getLast?_eq_getElem?]
  by_cases within : offset < tokens.length
  · rw [Nat.min_eq_left (by omega), List.getElem?_eq_getElem within]
    rfl
  · have last : min offset (tokens.length - 1) = tokens.length - 1 := by omega
    have inside : tokens.length - 1 < tokens.length := by omega
    rw [last, List.getElem?_eq_none (Nat.le_of_not_lt within), List.getElem?_eq_getElem inside]
    rfl

/-- The tokens to come as a list. All but the last one can be dropped. -/
def Keeping.list : Keeping (List Token) where
  peek := tokenAt
  remaining tokens := tokens
  skip tokens count := tokens.drop (min count (tokens.length - 1))
  push tokens token := token :: tokens

/-- A list with a last token that is an end. -/
def EndsWith (ending : Token) (tokens : List Token) : Prop :=
  ending.kind = .eof ∧ tokens.getLast? = some ending

namespace EndsWith

variable {ending : Token} {tokens : List Token}

theorem closed (tokens : List Token) : ∃ ending, EndsWith ending (TokenStream.closed tokens) := by
  rw [TokenStream.closed]
  split
  · exact ⟨.eof 1, rfl, rfl⟩
  · rename_i last final
    split
    · rename_i isEnd
      exact ⟨last, isEnd, final⟩
    · exact ⟨.eof last.line, rfl, by simp⟩

theorem length_pos (ends : EndsWith ending tokens) : 0 < tokens.length := by
  obtain ⟨-, final⟩ := ends
  cases tokens with
  | nil => cases final
  | cons => simp

theorem push (ends : EndsWith ending tokens) (token : Token) : EndsWith ending (token :: tokens) := by
  obtain ⟨isEnd, final⟩ := ends
  exact ⟨isEnd, by simp [List.getLast?_cons, final]⟩

theorem skip (ends : EndsWith ending tokens) (count : Nat) :
    EndsWith ending (tokens.drop (min count (tokens.length - 1))) := by
  have positive := ends.length_pos
  refine ⟨ends.1, ?_⟩
  rw [List.getLast?_drop, if_neg (by omega), ends.2]

theorem performAll (ends : EndsWith ending tokens) (operations : List StreamOperation) :
    EndsWith ending (Templating.performAll Keeping.list.perform tokens operations).2 := by
  -- The state of a list is a list with the same end: its own relation to itself.
  have alike : Keeping.list.Alike Keeping.list fun first second => first = second ∧ EndsWith ending first :=
    { peek := fun same _ => by rw [same.1]
      remaining := fun same => same.1
      skip := fun same count => ⟨by rw [same.1], same.2.skip count⟩
      push := fun same token => ⟨by rw [same.1], same.2.push token⟩ }
  exact (alike.performAll ⟨rfl, ends⟩ operations).2.2

end EndsWith

/-- All tokens, those that were passed too, and the place of the next one. -/
structure TokenVector where
  tokens : List Token
  position : Nat
  inside : position < tokens.length

namespace TokenVector

/-- The vector of a sequence of tokens, closed by an end. -/
def ofTokens (tokens : List Token) : TokenVector where
  tokens := TokenStream.closed tokens
  position := 0
  inside := (EndsWith.closed tokens).choose_spec.length_pos

/-- The place that is `offset` places behind the next token, as a sum of words, or the last place. -/
def placeBehind (v : TokenVector) (offset : Nat) : Fin v.tokens.length :=
  ⟨min ((v.position + offset) % UInt64.size) (v.tokens.length - 1), by have := v.inside; omega⟩

/-- The token at the place `offset` places behind the next one. -/
def peek (v : TokenVector) (offset : Nat) : Token :=
  v.tokens.get (v.placeBehind offset)

/-- The tokens from the place on. -/
def remaining (v : TokenVector) : List Token :=
  v.tokens.drop (min v.position (v.tokens.length - 1))

/-- Moves the place. -/
def skip (v : TokenVector) (count : Nat) : TokenVector where
  tokens := v.tokens
  position := v.placeBehind count
  inside := (v.placeBehind count).isLt

/-- Inserts a token at the place. -/
def push (v : TokenVector) (token : Token) : TokenVector where
  tokens := v.tokens.insertIdx v.position token
  position := v.position
  inside := by
    have := v.inside
    rw [List.length_insertIdx_of_le_length (by omega)]
    omega

end TokenVector

/-- The tokens to come in a vector. -/
def Keeping.vector : Keeping TokenVector where
  peek := TokenVector.peek
  remaining := TokenVector.remaining
  skip := TokenVector.skip
  push := TokenVector.push

/-- How far behind the next token an operation looks or moves. -/
def StreamOperation.reach : StreamOperation → Nat
  | .peek offset | .testAt offset _ => offset
  | .testSequence patterns => patterns.length - 1
  | .skip count => count
  | .advance | .expect _ _ | .expectOneOf _ => 1
  | .current | .remaining | .isAtEnd | .test _ | .push _ _ => 0

/-- Two ways to keep tokens do an operation alike if they do as far as it reaches. -/
theorem Keeping.perform_congr {σ : Type} {first second : Keeping σ} {s : σ} {operation : StreamOperation}
    (peek : ∀ offset ≤ operation.reach, first.peek s offset = second.peek s offset)
    (remaining : first.remaining s = second.remaining s)
    (skip : ∀ count ≤ operation.reach, first.skip s count = second.skip s count)
    (push : first.push s = second.push s) : first.perform s operation = second.perform s operation := by
  have next := peek 0 (Nat.zero_le _)
  cases operation with
  | peek offset => exact congrArg (fun token => (StreamAnswer.token token, s)) (peek offset (Nat.le_refl _))
  | testAt offset pattern =>
      simp only [Keeping.perform, peek offset (Nat.le_refl _)]
  | testSequence patterns =>
      have same : ∀ pattern ∈ patterns.zipIdx, first.peek s pattern.2 = second.peek s pattern.2 := by
        intro pattern inside
        have bound := (List.mem_zipIdx inside).2.1
        exact peek _ (by change _ ≤ patterns.length - 1; omega)
      have truth : patterns.zipIdx.all (fun pattern => pattern.1.accepts (first.peek s pattern.2)) =
          patterns.zipIdx.all fun pattern => pattern.1.accepts (second.peek s pattern.2) := by
        rw [Bool.eq_iff_iff, List.all_eq_true, List.all_eq_true]
        exact forall₂_congr fun pattern inside => by rw [same pattern inside]
      exact congrArg (fun holds => (StreamAnswer.truth holds, s)) truth
  | skip count => exact congrArg (Prod.mk StreamAnswer.done) (skip count (Nat.le_refl _))
  | advance | expect | expectOneOf => simp only [Keeping.perform, next, skip 1 (Nat.le_refl _)]
  | remaining => exact congrArg (fun tokens => (StreamAnswer.tokens tokens, s)) remaining
  | push | current | isAtEnd | test => simp only [Keeping.perform, next, push]

namespace TokenStream

variable {stream : TokenStream}

/-- What can be done with a stream. -/
def perform (stream : TokenStream) : StreamOperation → StreamAnswer × TokenStream
  | .current => (.token stream.current, stream)
  | .peek offset => (.token (stream.peek offset), stream)
  | .remaining => (.tokens stream.remaining, stream)
  | .isAtEnd => (.truth stream.isAtEnd, stream)
  | .test patterns => (.truth (stream.test patterns), stream)
  | .testAt offset pattern => (.truth (stream.testAt offset pattern), stream)
  | .testSequence patterns => (.truth (stream.testSequence patterns), stream)
  | .advance => (.token stream.current, stream.next)
  | .skip count => (.done, stream.skip count)
  | .expect kind value =>
    match stream.expect kind value with
    | .ok (token, behind) => (.token token, behind)
    | .error e => (.refused e, stream)
  | .expectOneOf patterns =>
    match stream.expectOneOf patterns with
    | .ok (token, behind) => (.token token, behind)
    | .error e => (.refused e, stream)
  | .push kind value => (.done, stream.push kind value)

end TokenStream

/-- The tokens to come in a stream, whose places are words. -/
def Keeping.stream : Keeping TokenStream where
  peek := TokenStream.peek
  remaining := TokenStream.remaining
  skip := TokenStream.skip
  push stream token := { stream with current := token, later := stream.remaining }

/-- The tokens to come in a stream, as they are read one by one. -/
def Keeping.reading : Keeping TokenStream where
  peek := TokenStream.ahead
  remaining := TokenStream.remaining
  skip := TokenStream.pass
  push := Keeping.stream.push

namespace TokenStream

variable {stream : TokenStream}

theorem remaining_ofTokens (tokens : List Token) : (ofTokens tokens).remaining = closed tokens := by
  obtain ⟨ending, ends⟩ := EndsWith.closed tokens
  rw [ofTokens]
  split
  · rename_i nothing
    rw [nothing] at ends
    cases ends.2
  · rename_i first later split
    rw [split]
    rfl

theorem passed_ofTokens (tokens : List Token) : (ofTokens tokens).passed = [] := by
  rw [ofTokens]
  split <;> rfl

theorem ahead_eq (stream : TokenStream) (offset : Nat) : stream.ahead offset = tokenAt stream.remaining offset := by
  cases offset with
  | zero => rfl
  | succ offset =>
      simp [ahead, tokenAt, remaining, List.getD_eq_getElem?_getD, List.getLastD_eq_getLast?, List.getLast?_cons]

theorem length_all (stream : TokenStream) : stream.all.length = stream.position + stream.later.length + 1 := by
  simp [all, remaining, position]
  omega

theorem drop_position (stream : TokenStream) : stream.all.drop stream.position = stream.remaining := by
  simp [all, position]

theorem take_position (stream : TokenStream) : stream.all.take stream.position = stream.passed.reverse := by
  simp [all, position]

theorem ext_all {other : TokenStream} (same : stream.all = other.all) (place : stream.position = other.position) :
    stream = other := by
  have passed := stream.take_position
  have remaining := stream.drop_position
  rw [same, place, other.take_position, List.reverse_inj] at passed
  rw [same, place, other.drop_position] at remaining
  obtain ⟨_, _, _⟩ := stream
  obtain ⟨_, _, _⟩ := other
  cases passed
  cases remaining
  rfl

theorem moveTo_spec {place : Nat} (inside : place < stream.all.length) :
    (stream.moveTo place).all = stream.all ∧ (stream.moveTo place).position = place := by
  have split := List.drop_eq_getElem_cons inside
  rw [moveTo, split]
  refine ⟨?_, ?_⟩
  · change (stream.all.take place).reverse.reverse ++ _ :: _ = _
    rw [List.reverse_reverse, ← split, List.take_append_drop]
  · simp only [position, List.length_reverse, List.length_take]
    omega

theorem placeBehind_lt (stream : TokenStream) (offset : Nat) : stream.placeBehind offset < stream.all.length := by
  have length := stream.length_all
  rw [placeBehind]
  omega

theorem pass_spec (stream : TokenStream) (count : Nat) :
    (stream.pass count).all = stream.all ∧
      (stream.pass count).position = stream.position + min count stream.later.length := by
  induction count generalizing stream with
  | zero => simp [pass]
  | succ count ih =>
      obtain ⟨tokens, place⟩ := ih stream.next
      rw [pass, tokens, place]
      obtain ⟨passed, current, later⟩ := stream
      cases later with
      | nil => simp [next]
      | cons token later =>
          simp only [next, all, remaining, position, List.reverse_cons, List.append_assoc, List.singleton_append,
            List.length_cons, Nat.succ_min_succ]
          exact ⟨trivial, by omega⟩

theorem placeBehind_eq {offset : Nat} (fits : stream.position + offset < UInt64.size) :
    stream.placeBehind offset = stream.position + min offset stream.later.length := by
  have length := stream.length_all
  rw [placeBehind, Nat.mod_eq_of_lt fits]
  omega

theorem skip_eq_pass {count : Nat} (fits : stream.position + count < UInt64.size) : stream.skip count = stream.pass count := by
  obtain ⟨tokens, place⟩ := moveTo_spec (stream.placeBehind_lt count)
  obtain ⟨tokens', place'⟩ := stream.pass_spec count
  exact ext_all (tokens.trans tokens'.symm) (place.trans ((placeBehind_eq fits).trans place'.symm))

theorem peek_eq_ahead {offset : Nat} (fits : stream.position + offset < UInt64.size) :
    stream.peek offset = stream.ahead offset := by
  have positive : 0 < stream.remaining.length := Nat.succ_pos _
  have behind := getElem?_tokenAt positive offset
  rw [← drop_position, List.getElem?_drop, drop_position, ← ahead_eq] at behind
  rw [peek, placeBehind_eq fits, List.getD_eq_getElem?_getD]
  exact Option.getD_eq_iff.mpr (.inl behind)

theorem perform_eq {operation : StreamOperation} (fits : stream.position + operation.reach < UInt64.size) :
    stream.perform operation = Keeping.reading.perform stream operation := by
  cases operation with
  | peek offset => exact congrArg (fun token => (StreamAnswer.token token, stream)) (peek_eq_ahead fits)
  | testAt offset pattern =>
      exact congrArg (fun token => (StreamAnswer.truth (pattern.accepts token), stream)) (peek_eq_ahead fits)
  | skip count => exact congrArg (Prod.mk StreamAnswer.done) (skip_eq_pass fits)
  | expect kind value =>
      change _ = if TokenStream.fits stream.current kind value = true then _ else _
      simp only [perform, expect]
      by_cases fitting : TokenStream.fits stream.current kind value = true
      · simp only [fitting, if_true]
        rfl
      · simp only [fitting]
        rfl
  | expectOneOf patterns =>
      change _ = if stream.test patterns = true then _ else _
      simp only [perform, expectOneOf]
      by_cases fitting : stream.test patterns = true
      · simp only [fitting, if_true]
        rfl
      · simp only [fitting]
        rfl
  | _ => rfl

theorem stream_eq_reading {operation : StreamOperation} (fits : stream.position + operation.reach < UInt64.size) :
    Keeping.stream.perform stream operation = Keeping.reading.perform stream operation :=
  Keeping.perform_congr (fun _ within => peek_eq_ahead (by omega)) rfl (fun _ within => skip_eq_pass (by omega)) rfl

theorem alike_list : Keeping.reading.Alike Keeping.list fun stream tokens => stream.remaining = tokens where
  peek := by
    rintro stream _ rfl offset
    exact stream.ahead_eq offset
  remaining := by
    rintro stream _ rfl
    rfl
  skip := by
    rintro stream _ rfl count
    obtain ⟨tokens, place⟩ := stream.pass_spec count
    change (stream.pass count).remaining = stream.remaining.drop (min count stream.later.length)
    rw [← drop_position, tokens, place, ← drop_position, List.drop_drop]
  push := by
    rintro stream _ rfl token
    rfl

/-- A vector keeps the tokens of a stream, those that have been passed too, and the place is how many have been. -/
structure KeptIn (stream : TokenStream) (v : TokenVector) : Prop where
  position : v.position = stream.position
  tokens : v.tokens = stream.all

theorem KeptIn.ofTokens (tokens : List Token) : (ofTokens tokens).KeptIn (.ofTokens tokens) where
  position := (congrArg List.length (passed_ofTokens tokens)).symm
  tokens := by rw [all, passed_ofTokens, remaining_ofTokens]; rfl

/-- Streams and vectors add words alike, so it does not matter how far an operation reaches. -/
theorem alike_vector : Keeping.stream.Alike Keeping.vector KeptIn where
  peek := by
    rintro stream ⟨tokens, position, inside⟩ ⟨rfl, rfl⟩ offset
    exact (List.getElem_eq_getD _).symm
  remaining := by
    rintro stream ⟨tokens, position, inside⟩ ⟨rfl, rfl⟩
    change stream.remaining = stream.all.drop (min stream.position (stream.all.length - 1))
    rw [Nat.min_eq_left (Nat.le_sub_one_of_lt inside), drop_position]
  skip := by
    rintro stream ⟨tokens, position, inside⟩ ⟨rfl, rfl⟩ count
    obtain ⟨tokens, place⟩ := moveTo_spec (stream.placeBehind_lt count)
    exact ⟨place.symm, tokens.symm⟩
  push := by
    rintro stream ⟨tokens, position, inside⟩ ⟨rfl, rfl⟩ token
    refine ⟨rfl, ?_⟩
    change (stream.passed.reverse ++ stream.remaining).insertIdx stream.passed.length token =
      stream.passed.reverse ++ token :: stream.remaining
    rw [← List.length_reverse]
    induction stream.passed.reverse with
    | nil => rfl
    | cons first others ih => exact congrArg (List.cons first) ih

/-- Operations one after another reach no further than words. -/
def Fit (stream : TokenStream) : List StreamOperation → Prop
  | [] => True
  | operation :: operations =>
    stream.position + operation.reach < UInt64.size ∧ Fit (stream.perform operation).2 operations

theorem position_pass_le (stream : TokenStream) (count : Nat) : (stream.pass count).position ≤ stream.position + count := by
  rw [(stream.pass_spec count).2]
  omega

theorem position_reading_le (operation : StreamOperation) :
    (Keeping.reading.perform stream operation).2.position ≤ stream.position + operation.reach := by
  cases operation with
  | advance => exact stream.position_pass_le 1
  | skip count => exact stream.position_pass_le count
  | expect | expectOneOf =>
      simp only [Keeping.perform]
      split
      · exact stream.position_pass_le 1
      · exact Nat.le_add_right _ _
  | _ => exact Nat.le_add_right _ _

/-- Operations that reach no further than words do the same in every way of keeping the tokens. -/
theorem performAll_eq {operations : List StreamOperation} (start : stream.position < UInt64.size)
    (fits : stream.Fit operations) :
    performAll perform stream operations = performAll Keeping.reading.perform stream operations ∧
      performAll Keeping.stream.perform stream operations = performAll Keeping.reading.perform stream operations ∧
      (performAll perform stream operations).2.position < UInt64.size := by
  induction operations generalizing stream with
  | nil => exact ⟨rfl, rfl, start⟩
  | cons operation operations ih =>
      obtain ⟨fitting, onward⟩ := fits
      have same := perform_eq fitting
      have words := stream_eq_reading fitting
      have bound := stream.position_reading_le operation
      rw [same] at onward
      obtain ⟨sameRest, wordsRest, place⟩ := ih (by omega) onward
      rw [performAll, performAll, performAll, same, words]
      exact ⟨by simp only [sameRest], by simp only [wordsRest], place⟩

/-- Where a sum is no word, it wraps around to the place of a token that has been passed. -/
theorem turns_back {count : Nat} (start : stream.position < UInt64.size) (isWord : count < UInt64.size)
    (beyond : UInt64.size ≤ stream.position + count) :
    let place := stream.position + count - UInt64.size
    place < stream.position ∧ stream.passed.reverse[place]? = some (stream.peek count) ∧
      (stream.skip count).remaining = stream.passed.reverse.drop place ++ stream.remaining ∧
      (stream.skip count).position = place := by
  intro place
  have length := stream.length_all
  have back : place < stream.position := by omega
  have inside : place < stream.passed.reverse.length := by rwa [List.length_reverse]
  have wraps : stream.placeBehind count = place := by
    rw [placeBehind, Nat.mod_eq_sub_mod beyond, Nat.mod_eq_of_lt (by omega)]
    omega
  have inAll : place < stream.all.length := by omega
  obtain ⟨tokens, moved⟩ := moveTo_spec inAll
  refine ⟨back, ?_, ?_, ?_⟩
  · rw [peek, wraps, all, List.getD_eq_getElem?_getD, List.getElem?_append_left inside, List.getElem?_eq_getElem inside]
    rfl
  · rw [skip, wraps, ← drop_position, tokens, moved, all, List.drop_append_of_le_length (Nat.le_of_lt inside)]
  · rw [skip, wraps, moved]

theorem closed_eq (tokens : List Token) :
    closed tokens = tokens ++
      if tokens.getLast?.any fun last => last.kind = .eof then []
      else [.eof ((tokens.getLast?.map Token.line).getD 1)] := by
  rw [closed]
  cases final : tokens.getLast? with
  | none =>
      rw [List.getLast?_eq_none_iff.mp final]
      rfl
  | some last =>
      dsimp only
      by_cases isEnd : last.kind = .eof
      · simp [isEnd]
      · simp [isEnd]

/-- As long as the places asked for are words, a stream answers like the list of its tokens to come, whatever is done with
it, and so does a vector of all tokens with a place in it. The list starts as the tokens, closed by an end on the line of the
last one unless they end with one; tokens are put in front of it, and all but the last one can be dropped. The last token is
the same end throughout. A word that leads beyond the words does not lead to the last token but back: the stream answers
with a token that has been passed, or passes again what it has passed. -/
theorem performs_like_list (tokens : List Token) (operations : List StreamOperation)
    (fits : (ofTokens tokens).Fit operations) :
    let start := tokens ++
      if tokens.getLast?.any fun last => last.kind = .eof then []
      else [.eof ((tokens.getLast?.map Token.line).getD 1)]
    let list := performAll Keeping.list.perform start operations
    let stream := performAll perform (ofTokens tokens) operations
    let vector := performAll Keeping.vector.perform (.ofTokens tokens) operations
    (stream.1 = list.1 ∧ vector.1 = list.1 ∧
      stream.2.remaining = list.2 ∧ vector.2.remaining = list.2 ∧ vector.2.position = stream.2.position ∧
      ∃ ending, ending.kind = .eof ∧ start.getLast? = some ending ∧ list.2.getLast? = some ending) ∧
    ∀ count < UInt64.size, UInt64.size ≤ stream.2.position + count →
      let place := stream.2.position + count - UInt64.size
      place < stream.2.position ∧ stream.2.passed.reverse[place]? = some (stream.2.peek count) ∧
        vector.2.peek count = stream.2.peek count ∧
        (stream.2.skip count).remaining = stream.2.passed.reverse.drop place ++ list.2 ∧
        (vector.2.skip count).remaining = (stream.2.skip count).remaining ∧
        (stream.2.skip count).position = place ∧ (vector.2.skip count).position = place := by
  intro start list stream vector
  have atStart : (ofTokens tokens).position < UInt64.size := by
    rw [position, passed_ofTokens]
    decide
  obtain ⟨read, words, bounded⟩ := performAll_eq atStart fits
  have started : (ofTokens tokens).remaining = start := (remaining_ofTokens tokens).trans (closed_eq tokens)
  obtain ⟨answers, toCome⟩ := alike_list.performAll started operations
  obtain ⟨sameAnswers, kept⟩ := alike_vector.performAll (KeptIn.ofTokens tokens) operations
  rw [← read] at answers toCome
  rw [words, ← read] at sameAnswers kept
  obtain ⟨ending, ends⟩ := EndsWith.closed tokens
  rw [closed_eq] at ends
  refine ⟨⟨answers, sameAnswers.symm.trans answers, toCome, (alike_vector.remaining kept).symm.trans toCome, kept.position,
    ending, ends.1, ends.2, (ends.performAll operations).2⟩, ?_⟩
  intro count isWord beyond place
  obtain ⟨back, passed, again, moved⟩ := turns_back bounded isWord beyond
  rw [toCome] at again
  have behind := alike_vector.skip kept count
  exact ⟨back, passed, (alike_vector.peek kept count).symm, again, (alike_vector.remaining behind).symm, moved,
    behind.position.trans moved⟩

/-- Two names on a line. -/
def pair : List Token :=
  [⟨.identifier, "x", 1⟩, ⟨.identifier, "y", 1⟩]

theorem pair_like_list :
    (ofTokens pair).Fit [.advance] ∧
      (performAll perform (ofTokens pair) [.advance]).1 =
        (performAll Keeping.list.perform (pair ++ [.eof 1]) [.advance]).1 ∧
      ((performAll perform (ofTokens pair) [.advance]).2.skip (UInt64.size - 1)).position = 0 := by
  have fits : (ofTokens pair).Fit [.advance] := ⟨by decide, trivial⟩
  obtain ⟨⟨answers, -⟩, back⟩ := performs_like_list pair [.advance] fits
  obtain ⟨-, -, -, -, -, place, -⟩ := back (UInt64.size - 1) (by decide) (by decide)
  exact ⟨fits, answers, place⟩

/-- Behind a token, the greatest word leads back to that token, and in the list to its end. -/
theorem pair_turns_back :
    let operations : List StreamOperation :=
      [.advance, .peek (UInt64.size - 1), .skip (UInt64.size - 1), .current]
    (performAll perform (ofTokens pair) operations).1 =
        [.token ⟨.identifier, "x", 1⟩, .token ⟨.identifier, "x", 1⟩, .done, .token ⟨.identifier, "x", 1⟩] ∧
      (performAll Keeping.list.perform (pair ++ [.eof 1]) operations).1 =
        [.token ⟨.identifier, "x", 1⟩, .token (.eof 1), .done, .token (.eof 1)] := by
  exact ⟨rfl, rfl⟩

/-- What is put in front of the last token is passed, and the last token is not. -/
example : (performAll perform (ofTokens [⟨.identifier, "x", 4⟩])
    [.skip 7, .push .punctuation "(", .advance, .advance, .peek 2]).1 =
      [.done, .done, .token ⟨.punctuation, "(", 4⟩, .token (.eof 4), .token (.eof 4)] := by
  rfl

end TokenStream

end Templating
