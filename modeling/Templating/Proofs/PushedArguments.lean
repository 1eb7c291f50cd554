import Templating.Proofs.Cursor
import Templating.Parse.Expression

/-! # Arguments behind a pushed token

The opening bracket of arguments can be put in front of them as a token of its own, to be expected there. That token is passed
before anything else is read, so all it changes is which tokens have been passed, and no reader looks at them.
-/

namespace Templating

namespace Cursor

/-- The same place, with no token passed. -/
def afresh (c : Cursor) : Cursor :=
  { c with stream := { c.stream with passed := [] } }

/-- The same place behind earlier tokens, the last one first. -/
def after (earlier : List Token) (c : Cursor) : Cursor :=
  { c with stream := { c.stream with passed := c.stream.passed ++ earlier } }

variable (earlier : List Token) (c : Cursor)

theorem after_afresh : c.afresh.after c.stream.passed = c :=
  rfl

@[simp] theorem current_after : (c.after earlier).current = c.current :=
  rfl

@[simp] theorem remaining_after : (c.after earlier).stream.remaining = c.stream.remaining :=
  rfl

@[simp] theorem enter_after (kind : StateKind) (label : String) (line : Nat) :
    (c.after earlier).enter kind label line = (c.enter kind label line).after earlier :=
  rfl

@[simp] theorem next_after : (c.after earlier).next = c.next.after earlier := by
  obtain ⟨⟨passed, current, later⟩, opened⟩ := c
  cases later <;> rfl

@[simp] theorem skip_after (count : Nat) : (c.after earlier).skip count = (c.skip count).after earlier := by
  induction count generalizing c with
  | zero => rfl
  | succ count ih =>
      have onward : (c.after earlier).skip (count + 1) = (c.after earlier).next.skip count := rfl
      rw [onward, next_after, ih]
      rfl

@[simp] theorem exhausted_after : (c.after earlier).exhausted = c.exhausted :=
  rfl

end Cursor

namespace Parse

/-- What is read, with the cursor put behind earlier tokens. -/
def readAfter {α : Type} (earlier : List Token) (reading : Except ParseError (α × Cursor)) :
    Except ParseError (α × Cursor) :=
  reading.map fun found => (found.1, found.2.after earlier)

section

variable {α β : Type} (earlier : List Token)

@[simp] theorem readAfter_ok (a : α) (c : Cursor) : readAfter earlier (.ok (a, c)) = .ok (a, c.after earlier) :=
  rfl

@[simp] theorem readAfter_pure (a : α) (c : Cursor) : readAfter earlier (pure (a, c)) = .ok (a, c.after earlier) :=
  rfl

@[simp] theorem readAfter_error (e : ParseError) : readAfter earlier (.error e : Except ParseError (α × Cursor)) = .error e :=
  rfl

@[simp] theorem readAfter_ite {p : Prop} [Decidable p] (one other : Except ParseError (α × Cursor)) :
    readAfter earlier (if p then one else other) = if p then readAfter earlier one else readAfter earlier other :=
  apply_ite _ p one other

@[simp] theorem readAfter_bind (reading : Except ParseError α) (next : α → Except ParseError (β × Cursor)) :
    readAfter earlier (reading >>= next) = reading >>= fun a => readAfter earlier (next a) := by
  cases reading <;> rfl

@[simp] theorem bind_readAfter (reading : Except ParseError (α × Cursor)) (next : α × Cursor → Except ParseError β) :
    readAfter earlier reading >>= next = reading >>= fun found => next (found.1, found.2.after earlier) := by
  cases reading <;> rfl

end

variable (earlier : List Token)

theorem expect_after (c : Cursor) (kind : TokenKind) (value : Option String) :
    (c.after earlier).expect kind value = readAfter earlier (c.expect kind value) := by
  have same : TokenStream.fits (c.after earlier).stream.current kind value = TokenStream.fits c.stream.current kind value :=
    rfl
  rw [Cursor.expect, Cursor.expect, TokenStream.expect, TokenStream.expect, same]
  split
  · exact congrArg (fun d : Cursor => Except.ok (c.current, d)) (c.next_after earlier)
  · rfl

theorem close_after (c : Cursor) (kind : StateKind) (label : String) (closer : TokenPattern) :
    (c.after earlier).close kind label closer = (c.close kind label closer).map (Cursor.after earlier) := by
  have same : (c.after earlier).opened = c.opened := rfl
  have test : (c.after earlier).stream.test Cursor.closers = c.stream.test Cursor.closers := rfl
  rw [Cursor.close, Cursor.close, Cursor.leave, Cursor.leave, same, test, Cursor.current_after]
  split
  · cases c.opened.close kind label with
    | ok found => exact congrArg Except.ok (Cursor.next_after earlier { c with opened := found.2 })
    | error innermost => rfl
  · split <;> rfl

@[simp] theorem bind_close_after {α : Type} (c : Cursor) (kind : StateKind) (label : String) (closer : TokenPattern)
    (next : Cursor → Except ParseError α) :
    (c.after earlier).close kind label closer >>= next = c.close kind label closer >>= fun d => next (d.after earlier) := by
  rw [close_after]
  cases c.close kind label closer <;> rfl

/-- The readers of expressions do not look at the tokens that have been passed. -/
structure Forgetful (r : Registries) (budget : Nat) : Prop where
  binary : ∀ least c, binary r budget least (c.after earlier) = readAfter earlier (binary r budget least c)
  climb : ∀ least left before c,
    climb r budget least left before (c.after earlier) = readAfter earlier (climb r budget least left before c)
  operands : ∀ found left line c,
    operands r budget found left line (c.after earlier) = readAfter earlier (operands r budget found left line c)
  unary : ∀ c, unary r budget (c.after earlier) = readAfter earlier (unary r budget c)
  primary : ∀ c, primary r budget (c.after earlier) = readAfter earlier (primary r budget c)
  trailers : ∀ base c, trailers r budget base (c.after earlier) = readAfter earlier (trailers r budget base c)
  arguments : ∀ label closer c,
    arguments r budget label closer (c.after earlier) = readAfter earlier (arguments r budget label closer c)
  items : ∀ closer c, items r budget closer (c.after earlier) = readAfter earlier (items r budget closer c)

theorem forgetful_zero (r : Registries) : Forgetful earlier r 0 := by
  constructor <;> intros <;> rfl

variable {earlier} {r : Registries} {budget : Nat}

theorem forgetful_succ (smaller : Forgetful earlier r budget) : Forgetful earlier r (budget + 1) where
  binary := by
    intro least c
    rw [binary, binary]
    simp only [smaller.unary, smaller.climb, bind_readAfter, readAfter_bind]
  climb := by
    intro least left before c
    rw [climb, climb]
    simp only [Cursor.remaining_after, Cursor.current_after]
    cases r.operators.binaryAt? c.stream.remaining with
    | none =>
        simp only [readAfter_ite, readAfter_ok, readAfter_error]
        rfl
    | some found =>
        simp only [Cursor.skip_after, smaller.operands, smaller.climb, bind_readAfter]
        split
        · rfl
        · split
          · rfl
          · simp only [readAfter_bind]
  operands := by
    intro found left line c
    rw [operands, operands]
    simp only [smaller.binary, bind_readAfter, expect_after]
    split <;> simp only [readAfter_bind, readAfter_pure, readAfter_ok] <;> rfl
  unary := by
    intro c
    rw [unary, unary]
    simp only [Cursor.remaining_after]
    cases r.operators.unaryAt? c.stream.remaining with
    | none => simp only [smaller.primary, smaller.trailers, bind_readAfter, readAfter_bind]
    | some found =>
        simp only [Cursor.skip_after, smaller.binary, bind_readAfter, readAfter_bind]
        rfl
  primary := by
    intro c
    rw [primary, primary]
    simp only [Cursor.current_after, Cursor.next_after, Cursor.enter_after, smaller.binary, smaller.arguments, bind_readAfter,
      bind_close_after, readAfter_ite, readAfter_bind, readAfter_pure, readAfter_ok, readAfter_error]
    rfl
  trailers := by
    intro base c
    rw [trailers, trailers]
    simp only [Cursor.current_after, Cursor.next_after, Cursor.enter_after, smaller.binary, smaller.arguments,
      smaller.trailers, bind_readAfter, bind_close_after, readAfter_ite, readAfter_bind, readAfter_ok, readAfter_error]
  arguments := by
    intro label closer c
    rw [arguments, arguments]
    simp only [Cursor.current_after, Cursor.enter_after, smaller.items, bind_readAfter, bind_close_after, readAfter_bind]
    rfl
  items := by
    intro closer c
    rw [items, items]
    simp only [Cursor.current_after, Cursor.next_after, smaller.binary, smaller.items, bind_readAfter, readAfter_ite,
      readAfter_bind]
    rfl

theorem forgetful (earlier : List Token) (r : Registries) (budget : Nat) : Forgetful earlier r budget := by
  induction budget with
  | zero => exact forgetful_zero earlier r
  | succ budget smaller => exact forgetful_succ smaller

/-- Puts a token for the opening bracket in front of arguments, expects it there, and reads the arguments behind it up to the
closer that goes with it. -/
def pushedArguments (r : Registries) (budget : Nat) (label : String) (c : Cursor) :
    Except ParseError (List Tree × Cursor) := do
  let (start, c) ← { c with stream := c.stream.push .argumentListStart label : Cursor }.expect .argumentListStart none
  let closer := if start.value = "[" then closeBracket else closeParen
  let (items, c) ← items r budget closer (c.enter .argumentList start.value start.line)
  let c ← c.close .argumentList start.value closer
  return (items, c)

/-- The token that is put in front of arguments is passed at once, and only the tokens that have been passed tell. -/
theorem pushedArguments_eq (r : Registries) (budget : Nat) (label : String) (c : Cursor) :
    let closer := if label = "[" then closeBracket else closeParen
    let read := arguments r (budget + 1) label closer c.afresh
    arguments r (budget + 1) label closer c = readAfter c.stream.passed read ∧
      pushedArguments r budget label c =
        readAfter (⟨.argumentListStart, label, c.current.line⟩ :: c.stream.passed) read := by
  intro closer read
  refine ⟨?_, ?_⟩
  · rw [← (forgetful _ r (budget + 1)).arguments, Cursor.after_afresh]
  · rw [← (forgetful _ r (budget + 1)).arguments, arguments]
    rfl

end Parse

end Templating
