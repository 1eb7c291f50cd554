import Templating.Parse.Error

/-! # Token streams

The tokens that are still to be read, and those that have been passed. There is always one to be read: the
last token, which is an end, is never passed.

Places in a stream are machine words, so a sum of places wraps around. Whoever is handed a stream can ask for
any word. The reading of a template asks for the next tokens only, whose places are words, so it adds nothing
up.
-/

namespace Templating

/-- The tokens that are still to be read, and those that have been passed. -/
structure TokenStream where
  /-- The tokens that have been passed, the last one first. -/
  passed : List Token := []
  /-- The next token. -/
  current : Token
  /-- The tokens behind it. -/
  later : List Token
deriving Repr, DecidableEq, BEq

namespace TokenStream

/-- The tokens with an end behind them, on the line of the last token, unless they end with one. -/
def closed (tokens : List Token) : List Token :=
  match tokens.getLast? with
  | none => [.eof 1]
  | some last => if last.kind = .eof then tokens else tokens ++ [.eof last.line]

/-- The stream of a sequence of tokens. -/
def ofTokens (tokens : List Token) : TokenStream :=
  match closed tokens with
  | [] => { current := .eof 1, later := [] }
  | first :: later => { current := first, later := later }

/-- How many tokens have been passed. -/
def position (stream : TokenStream) : Nat :=
  stream.passed.length

/-- The tokens that are still to be read. -/
def remaining (stream : TokenStream) : List Token :=
  stream.current :: stream.later

/-- All tokens, those that have been passed too. -/
def all (stream : TokenStream) : List Token :=
  stream.passed.reverse ++ stream.remaining

/-- The token `offset` places behind the next one, or the last one. -/
def ahead (stream : TokenStream) (offset : Nat) : Token :=
  match offset with
  | 0 => stream.current
  | offset + 1 => (stream.later[offset]?).getD (stream.later.getLast?.getD stream.current)

/-- Whether the next token is an end. -/
def isAtEnd (stream : TokenStream) : Bool :=
  stream.current.kind == .eof

/-- Passes one token, unless it is the last one. -/
def next (stream : TokenStream) : TokenStream :=
  match stream.later with
  | [] => stream
  | token :: later => ⟨stream.current :: stream.passed, token, later⟩

/-- Passes several tokens, but not the last one. -/
def pass (stream : TokenStream) : Nat → TokenStream
  | 0 => stream
  | count + 1 => stream.next.pass count

/-- The place that is `offset` places behind the next token, as a sum of words, or the last place. -/
def placeBehind (stream : TokenStream) (offset : Nat) : Nat :=
  min ((stream.position + offset) % UInt64.size) (stream.all.length - 1)

/-- The token at the place `offset` places behind the next one. -/
def peek (stream : TokenStream) (offset : Nat) : Token :=
  stream.all.getD (stream.placeBehind offset) stream.current

/-- The stream whose next token is the one at a place. -/
def moveTo (stream : TokenStream) (place : Nat) : TokenStream :=
  match stream.all.drop place with
  | [] => stream
  | token :: later => ⟨(stream.all.take place).reverse, token, later⟩

/-- Moves to the place `count` places behind the next token. -/
def skip (stream : TokenStream) (count : Nat) : TokenStream :=
  stream.moveTo (stream.placeBehind count)

/-- Whether the next token meets one of the patterns. -/
def test (stream : TokenStream) (patterns : List TokenPattern) : Bool :=
  patterns.any fun pattern => pattern.accepts stream.current

/-- Whether the token at the place `offset` places behind the next one meets a pattern. -/
def testAt (stream : TokenStream) (offset : Nat) (pattern : TokenPattern) : Bool :=
  pattern.accepts (stream.peek offset)

/-- Whether the next tokens meet the patterns one by one. -/
def testSequence (stream : TokenStream) (patterns : List TokenPattern) : Bool :=
  patterns.zipIdx.all fun pattern => pattern.1.accepts (stream.ahead pattern.2)

/-- What a kind, perhaps with a text, is called in messages. -/
def expectation (kind : TokenKind) (value : Option String) : String :=
  match value with
  | some text => "`" ++ text ++ "`"
  | none => kind.describe

/-- Whether a token is of a kind, and has the text if one is given. -/
def fits (token : Token) (kind : TokenKind) (value : Option String) : Bool :=
  token.kind == kind && value.all (token.value == ·)

/-- Passes a token of a kind, with the text if one is given. -/
def expect (stream : TokenStream) (kind : TokenKind) (value : Option String) :
    Except ParseError (Token × TokenStream) :=
  if fits stream.current kind value then .ok (stream.current, stream.next)
  else .error (.unexpected (expectation kind value) stream.current)

/-- Passes a token that meets one of the patterns. -/
def expectOneOf (stream : TokenStream) (patterns : List TokenPattern) :
    Except ParseError (Token × TokenStream) :=
  if stream.test patterns then .ok (stream.current, stream.next)
  else
    let expected :=
      match patterns with
      | [pattern] => pattern.describe
      | _ => "one of: " ++ String.intercalate ", " (patterns.map TokenPattern.describe)
    .error (.unexpected expected stream.current)

/-- Puts a token in front, on the line of the token that was next. -/
def push (stream : TokenStream) (kind : TokenKind) (value : String) : TokenStream :=
  { stream with current := ⟨kind, value, stream.current.line⟩, later := stream.remaining }

end TokenStream

end Templating
