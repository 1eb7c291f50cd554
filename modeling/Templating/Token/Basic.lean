import Templating.Text.Quoted

/-! # Tokens

The pieces that a template source consists of, each with the line it stands on.
-/

namespace Templating

/-- What a token is. -/
inductive TokenKind where
  /-- Text outside any delimiters. -/
  | text
  /-- The opener of a tag. -/
  | tagStart
  /-- The closer of a tag. -/
  | tagEnd
  /-- The opener of an expression. -/
  | expressionStart
  /-- The closer of an expression. -/
  | expressionEnd
  /-- A name. -/
  | identifier
  /-- A keyword at the start of a tag. -/
  | keyword
  /-- An operator symbol, or one word of an operator. -/
  | operator
  /-- A number, `true`, `false` or `null`. -/
  | literal
  /-- A text in quotes. -/
  | string
  /-- A bracket or separator. -/
  | punctuation
  /-- The start of the arguments of a call. -/
  | argumentListStart
  /-- The end of the source. -/
  | eof
deriving Repr, DecidableEq, BEq, Inhabited

namespace TokenKind

/-- Every kind. -/
def all : List TokenKind :=
  [text, tagStart, tagEnd, expressionStart, expressionEnd, identifier, keyword, operator, literal, string,
    punctuation, argumentListStart, eof]

/-- The name of a kind. -/
def name : TokenKind → String
  | text => "Text"
  | tagStart => "TagStart"
  | tagEnd => "TagEnd"
  | expressionStart => "ExpressionStart"
  | expressionEnd => "ExpressionEnd"
  | identifier => "Identifier"
  | keyword => "Keyword"
  | operator => "Operator"
  | literal => "Literal"
  | string => "String"
  | punctuation => "Punctuation"
  | argumentListStart => "ArgumentListStart"
  | eof => "Eof"

/-- A kind in the words of messages. -/
def describe : TokenKind → String
  | text => "text"
  | tagStart => "tag opener"
  | tagEnd => "tag closer"
  | expressionStart => "expression opener"
  | expressionEnd => "expression closer"
  | identifier => "identifier"
  | keyword => "keyword"
  | operator => "operator"
  | literal => "literal"
  | string => "string"
  | punctuation => "punctuation"
  | argumentListStart => "argument list"
  | eof => "end of template"

end TokenKind

/-- A piece of a template source. -/
structure Token where
  /-- What it is. -/
  kind : TokenKind
  /-- Its text. -/
  value : String
  /-- The line it stands on, counted from one. -/
  line : Nat
deriving Repr, DecidableEq, BEq, Inhabited

namespace Token

/-- The end of the source. -/
def eof (line : Nat) : Token :=
  ⟨.eof, "", line⟩

/-- Whether a token is this bracket or separator. -/
def isPunctuation (token : Token) (value : String) : Bool :=
  token.kind == .punctuation && token.value == value

/-- Whether a token is this word, whatever its role. -/
def isWord (token : Token) (value : String) : Bool :=
  (token.kind == .identifier || token.kind == .keyword || token.kind == .operator) && token.value == value

/-- A token in the words of messages. -/
def describe (token : Token) : String :=
  match token.kind with
  | .eof => "end of template"
  | .text => "text"
  | .string => "string " ++ Text.quote token.value
  | kind => kind.describe ++ " `" ++ token.value ++ "`"

/-- A token with all its parts. -/
def inspect (token : Token) : String :=
  token.kind.name ++ "(" ++ Text.quote token.value ++ ") @ " ++ toString token.line

end Token

end Templating
