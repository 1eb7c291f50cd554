import Templating.Text.Blank

/-! # Codes of diagnostics

Every diagnostic has a code by which it can be looked up. The first digit tells the stage that reports it.
-/

namespace Templating

/-- What a diagnostic is about. -/
inductive DiagnosticCode where
  /-- A text literal is not closed. -/
  | unterminatedString
  /-- A character starts no token. -/
  | invalidCharacter
  /-- A tag, expression or comment is not closed. -/
  | unterminatedDelimiter
  /-- A number is out of range or malformed. -/
  | invalidNumber
  /-- A token stands where another one belongs. -/
  | unexpectedToken
  /-- An expression is missing. -/
  | expectedExpression
  /-- A construct is still open at the end of the template. -/
  | unterminatedConstruct
  /-- A construct is closed by the wrong closer. -/
  | unexpectedClosing
  /-- A tag is unknown. -/
  | unknownTag
  /-- A keyword stands outside the block it continues. -/
  | continuationOutside
  /-- Operators that do not associate stand in a row. -/
  | chainedOperator
  /-- Something stands before the first branch of a switch. -/
  | switchBranch
  /-- An operator is unknown. -/
  | unknownOperator
  /-- The words after a tag fit none of its forms. -/
  | grammarMismatch
  /-- An operator lacks an operand. -/
  | missingOperand
  /-- A node does not have the shape it needs. -/
  | badLayout
  /-- Two names become the same identifier. -/
  | identifierCollision
  /-- An alias of an operator is taken. -/
  | duplicateAlias
  /-- An alias of an operator uses a reserved word. -/
  | reservedWord
  /-- A tag is registered twice. -/
  | duplicateTag
  /-- A function is registered twice. -/
  | duplicateFunction
  /-- The fallback tag is not registered. -/
  | unknownFallbackTag
  /-- No template has the name. -/
  | templateNotFound
  /-- A template cannot be read. -/
  | unreadableTemplate
  /-- The configuration is invalid. -/
  | invalidConfiguration
  /-- The compiler itself is wrong. -/
  | internalError
deriving Repr, DecidableEq, BEq

namespace DiagnosticCode

/-- The number of a code. -/
def number : DiagnosticCode → String
  | unterminatedString => "E0001"
  | invalidCharacter => "E0002"
  | unterminatedDelimiter => "E0003"
  | invalidNumber => "E0004"
  | unexpectedToken => "E1001"
  | expectedExpression => "E1002"
  | unterminatedConstruct => "E1003"
  | unexpectedClosing => "E1004"
  | unknownTag => "E1005"
  | continuationOutside => "E1006"
  | chainedOperator => "E1007"
  | switchBranch => "E1008"
  | unknownOperator => "E1009"
  | grammarMismatch => "E1010"
  | missingOperand => "E2001"
  | badLayout => "E2002"
  | identifierCollision => "E2003"
  | duplicateAlias => "E3001"
  | reservedWord => "E3002"
  | duplicateTag => "E3003"
  | duplicateFunction => "E3004"
  | unknownFallbackTag => "E3005"
  | templateNotFound => "E4001"
  | unreadableTemplate => "E4002"
  | invalidConfiguration => "E4003"
  | internalError => "E9001"

/-- Every code, in the order of the numbers. -/
def all : List DiagnosticCode := [
  unterminatedString, invalidCharacter, unterminatedDelimiter, invalidNumber,
  unexpectedToken, expectedExpression, unterminatedConstruct, unexpectedClosing, unknownTag,
  continuationOutside, chainedOperator, switchBranch, unknownOperator, grammarMismatch,
  missingOperand, badLayout, identifierCollision,
  duplicateAlias, reservedWord, duplicateTag, duplicateFunction, unknownFallbackTag,
  templateNotFound, unreadableTemplate, invalidConfiguration,
  internalError]

/-- The code with a number, in letters of either case and between any blanks. -/
def find? (text : String) : Option DiagnosticCode :=
  let number := String.ofList ((Text.trimEnd (Text.trimStart text.toList)).map Char.toUpper)
  all.find? fun code => code.number == number

/-- Whether the tokenizer reports a code. -/
def isLexical (code : DiagnosticCode) : Bool :=
  ['E', '0'].isPrefixOf code.number.toList

/-- Whether the parser reports a code. -/
def isSyntactic (code : DiagnosticCode) : Bool :=
  ['E', '1'].isPrefixOf code.number.toList

end DiagnosticCode

end Templating
