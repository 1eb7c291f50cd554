import Templating.Parse.Cursor
import Templating.Registry.Basic
import Templating.Number.Layout
import Templating.Tree.Basic

/-! # Reading expressions

Operators are read by precedence climbing: an operator takes what binds more tightly than itself as its
right operand, and then becomes the left operand of the next one. A bracket right behind a name opens a
call, a square bracket behind an operand an index; anywhere else they open a group and a list.

Every step takes one unit of a budget. The budget of a reading is large enough for its tokens, so no
reading is stopped before its end.
-/

namespace Templating.Parse

/-- The value that a literal token stands for. -/
def literal (token : Token) : Except ParseError Scalar :=
  let invalid : ParseError := ⟨.invalidNumber token.value, token.line⟩
  if token.value = "true" then .ok (.bool true)
  else if token.value = "false" then .ok (.bool false)
  else if token.value = "null" then .ok .null
  else if token.value.toList.contains '.' then
    match Number.readFloat? token.value.toList with
    | some x => .ok (.float x)
    | none => .error invalid
  else
    match Number.readWord? token.value.toList with
    | some n => .ok (.int n)
    | none => .error invalid

/-- Whether a token is a name: an identifier, or a word of an operator. -/
def isName (token : Token) : Bool :=
  (token.kind == .identifier || token.kind == .operator) && isWordLike token.value

/-- The closer of a round bracket. -/
def closeParen : TokenPattern :=
  .exact .punctuation ")"

/-- The closer of a square bracket. -/
def closeBracket : TokenPattern :=
  .exact .punctuation "]"

/-- What a call without a receiver calls: a registered function if there is one, and what the name means
when the template runs otherwise. A method is always found when the template runs. -/
def callee (r : Registries) (name : String) (receiver : Option Tree) : Callee :=
  match receiver, r.functions.lookup? name with
  | none, some id => .resolved id
  | _, _ => .named name

mutual

/-- Reads an expression of operators that bind at least as tightly as `least`. -/
def binary (r : Registries) (budget : Nat) (least : UInt8) (c : Cursor) : Except ParseError (Tree × Cursor) :=
  match budget with
  | 0 => .error c.exhausted
  | budget + 1 => do
    let (left, c) ← unary r budget c
    climb r budget least left none c

/-- Reads the operators behind an operand. `earlier` is the last operator, if it does not associate. -/
def climb (r : Registries) (budget : Nat) (least : UInt8) (left : Tree)
    (earlier : Option (UInt8 × String)) (c : Cursor) : Except ParseError (Tree × Cursor) :=
  match budget with
  | 0 => .error c.exhausted
  | budget + 1 =>
    match r.operators.binaryAt? c.stream.remaining with
    | none =>
      if c.current.kind = .operator ∧ !isWordLike c.current.value then
        .error ⟨.unknownOperator c.current.value, c.current.line⟩
      else .ok (left, c)
    | some found =>
      let definition := found.definition
      if definition.precedence < least then .ok (left, c)
      else
        match earlier.filter fun pair => pair.1 == definition.precedence with
        | some (_, name) => .error ⟨.chained name definition.name, c.current.line⟩
        | none => do
          let (node, behind) ← operands r budget found left c.current.line (c.skip found.length)
          let earlier :=
            if definition.associativity = .none then some (definition.precedence, definition.name) else none
          climb r budget least node earlier behind

/-- Reads the operands behind an operator. -/
def operands (r : Registries) (budget : Nat) (found : OperatorRegistry.Found) (left : Tree) (line : Nat)
    (c : Cursor) : Except ParseError (Tree × Cursor) :=
  match budget with
  | 0 => .error c.exhausted
  | budget + 1 =>
    match found.definition.arity with
    | .binary => do
      let (right, c) ← binary r budget found.definition.rightLimit c
      return (.operator found.id (some left) none (some right) line {}, c)
    | .test true => do
      let (right, c) ← binary r budget (tighter found.definition.precedence) c
      return (.operator found.id (some left) none (some right) line {}, c)
    | .ternary => do
      let (middle, c) ← binary r budget 0 c
      let (_, c) ← c.expect .punctuation (some ":")
      let (right, c) ← binary r budget found.definition.precedence c
      return (.operator found.id (some left) (some middle) (some right) line {}, c)
    | .test false => .ok (.operator found.id (some left) none none line {}, c)
    | .unaryPrefix => .ok (.operator found.id (some left) none none line {}, c)

/-- Reads an operand with the operators in front of it. -/
def unary (r : Registries) (budget : Nat) (c : Cursor) : Except ParseError (Tree × Cursor) :=
  match budget with
  | 0 => .error c.exhausted
  | budget + 1 =>
    match r.operators.unaryAt? c.stream.remaining with
    | some found => do
      let (operand, behind) ← binary r budget found.definition.precedence (c.skip found.length)
      return (.operator found.id none none (some operand) c.current.line {}, behind)
    | none => do
      let (base, c) ← primary r budget c
      trailers r budget base c

/-- Reads an operand without operators: a literal, a name, a call, a group or a list. -/
def primary (r : Registries) (budget : Nat) (c : Cursor) : Except ParseError (Tree × Cursor) :=
  match budget with
  | 0 => .error c.exhausted
  | budget + 1 =>
    let token := c.current
    if token.kind = .literal then do
      let value ← literal token
      return (.data value token.line {}, c.next)
    else if token.kind = .string then .ok (.data (.string token.value) token.line {}, c.next)
    else if isName token then
      if c.next.current.isPunctuation "(" then do
        let (args, c) ← arguments r budget "(" closeParen c.next.next
        return (.call (callee r token.value none) none args token.line {}, c)
      else .ok (.variable token.value token.line {}, c.next)
    else if token.isPunctuation "(" then do
      let (inner, c) ← binary r budget 0 (c.next.enter .expression "(" token.line)
      let c ← c.close .expression "(" closeParen
      return (inner, c)
    else if token.isPunctuation "[" then do
      let (items, c) ← arguments r budget "[" closeBracket c.next
      return (.list items token.line {}, c)
    else .error ⟨.expectedExpression token, token.line⟩

/-- Reads the indexes, attributes and method calls behind an operand. -/
def trailers (r : Registries) (budget : Nat) (base : Tree) (c : Cursor) : Except ParseError (Tree × Cursor) :=
  match budget with
  | 0 => .error c.exhausted
  | budget + 1 =>
    let token := c.current
    if token.isPunctuation "[" then do
      let (key, c) ← binary r budget 0 (c.next.enter .array "[" token.line)
      let c ← c.close .array "[" closeBracket
      trailers r budget (.index base key token.line {}) c
    else if token.isPunctuation "." then
      let name := c.next.current
      let behind := c.next.next
      if isName name then
        if behind.current.isPunctuation "(" then do
          let (args, c) ← arguments r budget "(" closeParen behind.next
          trailers r budget (.call (callee r name.value (some base)) (some base) args name.line {}) c
        else trailers r budget (.index base (.identifier name.value name.line {}) token.line {}) behind
      else if name.kind = .literal ∧ name.value.toList.all Char.isDigit then do
        let value ← literal name
        trailers r budget (.index base (.data value name.line {}) token.line {}) behind
      else .error (.unexpected "attribute name" name)
    else .ok (base, c)

/-- Reads expressions between commas behind a bracket, and the closer of the bracket. -/
def arguments (r : Registries) (budget : Nat) (label : String) (closer : TokenPattern) (c : Cursor) :
    Except ParseError (List Tree × Cursor) :=
  match budget with
  | 0 => .error c.exhausted
  | budget + 1 => do
    let (items, c) ← items r budget closer (c.enter .argumentList label c.current.line)
    let c ← c.close .argumentList label closer
    return (items, c)

/-- Reads expressions between commas, up to the closer. A comma may stand in front of the closer. -/
def items (r : Registries) (budget : Nat) (closer : TokenPattern) (c : Cursor) :
    Except ParseError (List Tree × Cursor) :=
  match budget with
  | 0 => .error c.exhausted
  | budget + 1 =>
    if closer.accepts c.current then .ok ([], c)
    else do
      let (item, c) ← binary r budget 0 c
      if c.current.isPunctuation "," then do
        let (later, c) ← items r budget closer c.next
        return (item :: later, c)
      else return ([item], c)

end

/-- Reads an expression. -/
def expression (r : Registries) (c : Cursor) : Except ParseError (Tree × Cursor) :=
  binary r c.budget 0 c

end Templating.Parse
