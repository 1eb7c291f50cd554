import Templating.Token.Stream

/-! # Cursors

A place in the reading of a template: the tokens to come and the constructs that are open.
-/

namespace Templating

/-- The tokens to come and the constructs that are open. -/
structure Cursor where
  /-- The tokens to come. -/
  stream : TokenStream
  /-- The constructs that are open, the innermost first. -/
  opened : OpenStates := []
deriving Repr, DecidableEq, BEq

namespace Cursor

/-- The next token. -/
def current (c : Cursor) : Token :=
  c.stream.current

/-- Passes one token. -/
def next (c : Cursor) : Cursor :=
  { c with stream := c.stream.next }

/-- Passes several tokens. -/
def skip (c : Cursor) (count : Nat) : Cursor :=
  { c with stream := c.stream.pass count }

/-- Opens a construct. -/
def enter (c : Cursor) (kind : StateKind) (label : String) (line : Nat) : Cursor :=
  { c with opened := ⟨kind, label, line⟩ :: c.opened }

/-- Closes the innermost construct, which must be this one. -/
def leave (c : Cursor) (kind : StateKind) (label : String) (line : Nat) : Except ParseError Cursor :=
  match c.opened.close kind label with
  | .ok (_, rest) => .ok { c with opened := rest }
  | .error innermost => .error ⟨.stateMismatch label innermost, line⟩

/-- Passes a token of a kind, with the text if one is given. -/
def expect (c : Cursor) (kind : TokenKind) (value : Option String) : Except ParseError (Token × Cursor) := do
  let (token, stream) ← c.stream.expect kind value
  return (token, { c with stream := stream })

/-- Passes a token that meets one of the patterns. -/
def expectOneOf (c : Cursor) (patterns : List TokenPattern) : Except ParseError (Token × Cursor) := do
  let (token, stream) ← c.stream.expectOneOf patterns
  return (token, { c with stream := stream })

/-- The tokens that close something. -/
def closers : List TokenPattern :=
  [.exact .punctuation ")", .exact .punctuation "]", .kind .expressionEnd, .kind .tagEnd]

/-- Closes the innermost construct with a token. A token that closes something else is blamed on the
construct that is still open. -/
def close (c : Cursor) (kind : StateKind) (label : String) (closer : TokenPattern) :
    Except ParseError Cursor :=
  if closer.accepts c.current then do
    let c ← c.leave kind label c.current.line
    return c.next
  else if c.stream.test closers then
    .error ⟨.unexpectedClosing c.current.value c.opened.head?, c.current.line⟩
  else .error (.unexpected closer.describe c.current)

/-- A bound on the steps that reading the tokens to come can take. -/
def budget (c : Cursor) : Nat :=
  8 * (c.stream.later.length + 2)

/-- The error of a reading that was stopped. -/
def exhausted (c : Cursor) : ParseError :=
  ⟨.exhausted, c.current.line⟩

end Cursor

end Templating
