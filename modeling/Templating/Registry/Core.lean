import Templating.Registry.Basic

/-! # The core extension

The operators, tags and functions that every template may use.
-/

namespace Templating.Core

/-- An operator between two operands, grouped from the left. -/
def binary (name : String) (aliases : List String) (precedence : UInt8) (operation : String) :
    OperatorDefinition :=
  ⟨name, aliases, precedence, .left, .binary, .binary operation⟩

/-- An operator between two operands that does not associate. -/
def comparison (name : String) (aliases : List String) (operation : String) : OperatorDefinition :=
  ⟨name, aliases, 20, .none, .binary, .binary operation⟩

/-- A test behind its operand. -/
def test (name : String) (aliases : List String) (takesArgument : Bool) (strategy : Strategy) :
    OperatorDefinition :=
  ⟨name, aliases, 20, .left, .test takesArgument, strategy⟩

/-- An operator in front of its operand. -/
def unary (name : String) (aliases : List String) (precedence : UInt8) (strategy : Strategy) :
    OperatorDefinition :=
  ⟨name, aliases, precedence, .right, .unaryPrefix, strategy⟩

/-- Whether two values are the same. -/
def identical : OperatorDefinition :=
  comparison "identical" ["===", "is", "is same as"] "identical"

/-- Whether a value is empty. -/
def isEmpty : OperatorDefinition :=
  test "empty" ["is empty"] false (.test "is_empty")

/-- Whether there is a value. -/
def isSet : OperatorDefinition :=
  test "set" ["is set"] false .isSet

/-- Whether a number is even. -/
def isEven : OperatorDefinition :=
  test "even" ["is even"] false (.test "is_even")

/-- Whether a number is odd. -/
def isOdd : OperatorDefinition :=
  test "odd" ["is odd"] false (.test "is_odd")

/-- Whether a number is a multiple of another. -/
def divisibleBy : OperatorDefinition :=
  test "divisible by" ["is divisible by"] true (.binary "divisible_by")

/-- Whether a text matches a pattern. -/
def like : OperatorDefinition :=
  test "like" ["is like"] true (.binary "like")

/-- Whether a container holds a value. -/
def isIn : OperatorDefinition :=
  ⟨"in", ["in"], 25, .none, .binary, .binary "contains"⟩

/-- The operators, the loosest first. -/
def operators : List OperatorDefinition := [
  ⟨"conditional", ["?"], 5, .right, .ternary, .conditional⟩,
  ⟨"or", ["or", "||"], 10, .left, .binary, .either⟩,
  binary "xor" ["xor"] 11 "xor",
  ⟨"and", ["and", "&&"], 12, .left, .binary, .both⟩,
  unary "not" ["not", "!"] 15 .negation,
  comparison "equal" ["=="] "eq",
  comparison "not equal" ["!="] "ne",
  comparison "less" ["<"] "lt",
  comparison "less or equal" ["<="] "le",
  comparison "greater" [">"] "gt",
  comparison "greater or equal" [">="] "ge",
  identical.negated "not identical" ["!==", "is not", "is not same as"],
  identical,
  isEmpty.negated "not empty" ["is not empty"],
  isEmpty,
  isSet.negated "not set" ["is not set"],
  isSet,
  isEven.negated "not even" ["is not even"],
  isEven,
  isOdd.negated "not odd" ["is not odd"],
  isOdd,
  divisibleBy.negated "not divisible by" ["is not divisible by"],
  divisibleBy,
  like.negated "not like" ["is not like"],
  like,
  isIn.negated "not in" ["not in"],
  isIn,
  binary "range" [".."] 27 "range",
  binary "concat" ["~"] 30 "concat",
  binary "add" ["+"] 40 "add",
  binary "subtract" ["-"] 40 "sub",
  binary "multiply" ["*"] 60 "mul",
  binary "divide" ["/"] 60 "div",
  binary "remainder" ["%"] 60 "rem",
  unary "negate" ["-"] 70 (.unary "neg"),
  unary "plus" ["+"] 70 (.unary "pos"),
  ⟨"power", ["**"], 80, .right, .binary, .binary "pow"⟩]

/-- Writes a value. -/
def printTag : TagDefinition where
  keyword := printKeyword
  form := .print
  grammar := [[.expression]]

/-- Chooses between branches by conditions. -/
def ifTag : TagDefinition where
  keyword := "if"
  form := .conditional
  grammar := [[.expression]]
  continuations := ["elseif", "else"]
  ending := some "endif"
  state := some .blockIf

/-- Repeats its body. -/
def forTag : TagDefinition where
  keyword := "for"
  form := .loop
  grammar := [
    [.exact .punctuation "(", .kind .identifier],
    [.kind .identifier, .word "in"],
    [.kind .identifier, .exact .punctuation ",", .kind .identifier]]
  continuations := ["else"]
  ending := some "endfor"
  state := some .blockFor
  isRepeating := true

/-- Chooses between branches by a value. -/
def switchTag : TagDefinition where
  keyword := "switch"
  form := .switch
  grammar := [[.expression]]
  continuations := ["case", "default"]
  ending := some "endswitch"
  state := some .blockSwitch

/-- Gives a variable a value. -/
def setTag : TagDefinition where
  keyword := "set"
  form := .assignment
  grammar := [[.kind .identifier, .exact .punctuation "="]]

/-- Renders another template. -/
def includeTag : TagDefinition where
  keyword := "include"
  form := .inclusion
  grammar := [[.expression]]

/-- Defines a nested template. -/
def templateTag : TagDefinition where
  keyword := "template"
  form := .nested
  grammar := [[.kind .identifier, .kind .tagEnd], [.kind .string, .kind .tagEnd]]
  ending := some "endtemplate"
  state := some .blockTemplate
  opensUnit := true

/-- The tags. -/
def tags : List TagDefinition :=
  [printTag, ifTag, forTag, switchTag, setTag, includeTag, templateTag]

/-- A function that is called by its path. -/
def builtin (name : String) : TemplateFunction where
  name := name
  invocation := .simple ("functions::" ++ name)

/-- A function that is a method of the core extension. -/
def method (name : String) : TemplateFunction where
  name := name
  invocation := .method "core" name

/-- The functions. -/
def functions : List TemplateFunction := [
  builtin "length", builtin "upper", builtin "lower", builtin "join", builtin "range", builtin "abs",
  { builtin "raw" with isSafe := true },
  method "replace", method "split"]

/-- The operators, tags and functions that every template may use. -/
def extension : Extension where
  name := "core"
  operators := operators
  tags := tags
  functions := functions

end Templating.Core
