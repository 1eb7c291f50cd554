import Templating.Token.Basic

/-! # Token patterns

What a tag may ask of a token that follows it.
-/

namespace Templating

/-- A condition on one token. -/
inductive TokenPattern where
  /-- The token is of this kind. -/
  | kind (kind : TokenKind)
  /-- The token is of this kind and has this text. -/
  | exact (kind : TokenKind) (value : String)
  /-- The token is this word, whatever its role. -/
  | word (value : String)
  /-- The token can begin an expression. -/
  | expression
deriving Repr, DecidableEq, BEq

namespace TokenPattern

/-- Whether a token can begin an expression. -/
def beginsExpression (token : Token) : Bool :=
  match token.kind with
  | .identifier => true
  | .operator => true
  | .literal => true
  | .string => true
  | .argumentListStart => true
  | .punctuation => token.value == "(" || token.value == "["
  | _ => false

/-- Whether a token meets a pattern. -/
def accepts (pattern : TokenPattern) (token : Token) : Bool :=
  match pattern with
  | .kind wanted => token.kind == wanted
  | .exact wanted value => token.kind == wanted && token.value == value
  | .word value => token.isWord value
  | .expression => beginsExpression token

/-- A pattern in the words of messages. -/
def describe : TokenPattern → String
  | .kind wanted => wanted.describe
  | .exact _ value => "`" ++ value ++ "`"
  | .word value => "`" ++ value ++ "`"
  | .expression => "expression"

/-- A row of patterns in the words of messages. -/
def describeAll (patterns : List TokenPattern) : String :=
  String.intercalate " " (patterns.map describe)

end TokenPattern

end Templating
