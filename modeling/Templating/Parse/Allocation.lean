import Templating.Parse.Template
import Templating.Tree.Arena

/-! # Reading into an arena

Every node is added to the arena when all of it has been read, so what is read inside it stands in front of it. A group adds
nothing, and an operand that goes on behind a point or a bracket, or in front of an operator, becomes a child of the node
that is added there.
-/

namespace Templating.Parse.Allocation

/-- A number, the arena behind the node, and the cursor behind the tokens of the node. -/
abbrev Reading := Except ParseError ((NodeId × Arena) × Cursor)

/-- The same for several nodes. -/
abbrev Readings := Except ParseError ((List NodeId × Arena) × Cursor)

/-- What a call calls, as `Parse.callee` says it of trees. -/
def callee (r : Registries) (name : String) (receiver : Option NodeId) : Callee :=
  match receiver, r.functions.lookup? name with
  | none, some id => .resolved id
  | _, _ => .named name

mutual

/-- Reads an expression of operators that bind at least as tightly as `least`. -/
def binary (r : Registries) (budget : Nat) (least : UInt8) (a : Arena) (c : Cursor) : Reading :=
  match budget with
  | 0 => .error c.exhausted
  | budget + 1 => do
    let ((left, a), c) ← unary r budget a c
    climb r budget least left none a c

/-- Reads the operators behind an operand. -/
def climb (r : Registries) (budget : Nat) (least : UInt8) (left : NodeId) (earlier : Option (UInt8 × String))
    (a : Arena) (c : Cursor) : Reading :=
  match budget with
  | 0 => .error c.exhausted
  | budget + 1 =>
    match r.operators.binaryAt? c.stream.remaining with
    | none =>
      if c.current.kind = .operator ∧ !isWordLike c.current.value then
        .error ⟨.unknownOperator c.current.value, c.current.line⟩
      else .ok ((left, a), c)
    | some found =>
      let definition := found.definition
      if definition.precedence < least then .ok ((left, a), c)
      else
        match earlier.filter fun pair => pair.1 == definition.precedence with
        | some (_, name) => .error ⟨.chained name definition.name, c.current.line⟩
        | none => do
          let ((node, a), behind) ← operands r budget found left c.current.line a (c.skip found.length)
          let earlier :=
            if definition.associativity = .none then some (definition.precedence, definition.name) else none
          climb r budget least node earlier a behind

/-- Reads the operands behind an operator. -/
def operands (r : Registries) (budget : Nat) (found : OperatorRegistry.Found) (left : NodeId) (line : Nat)
    (a : Arena) (c : Cursor) : Reading :=
  match budget with
  | 0 => .error c.exhausted
  | budget + 1 =>
    match found.definition.arity with
    | .binary => do
      let ((right, a), c) ← binary r budget found.definition.rightLimit a c
      return (a.push (.operator found.id (some left) none (some right)) line {}, c)
    | .test true => do
      let ((right, a), c) ← binary r budget (tighter found.definition.precedence) a c
      return (a.push (.operator found.id (some left) none (some right)) line {}, c)
    | .ternary => do
      let ((middle, a), c) ← binary r budget 0 a c
      let (_, c) ← c.expect .punctuation (some ":")
      let ((right, a), c) ← binary r budget found.definition.precedence a c
      return (a.push (.operator found.id (some left) (some middle) (some right)) line {}, c)
    | .test false => .ok (a.push (.operator found.id (some left) none none) line {}, c)
    | .unaryPrefix => .ok (a.push (.operator found.id (some left) none none) line {}, c)

/-- Reads an operand with the operators in front of it. -/
def unary (r : Registries) (budget : Nat) (a : Arena) (c : Cursor) : Reading :=
  match budget with
  | 0 => .error c.exhausted
  | budget + 1 =>
    match r.operators.unaryAt? c.stream.remaining with
    | some found => do
      let ((operand, a), behind) ← binary r budget found.definition.precedence a (c.skip found.length)
      return (a.push (.operator found.id none none (some operand)) c.current.line {}, behind)
    | none => do
      let ((base, a), c) ← primary r budget a c
      trailers r budget base a c

/-- Reads an operand without operators. -/
def primary (r : Registries) (budget : Nat) (a : Arena) (c : Cursor) : Reading :=
  match budget with
  | 0 => .error c.exhausted
  | budget + 1 =>
    let token := c.current
    if token.kind = .literal then do
      let value ← literal token
      return (a.push (.data value) token.line {}, c.next)
    else if token.kind = .string then .ok (a.push (.data (.string token.value)) token.line {}, c.next)
    else if isName token then
      if c.next.current.isPunctuation "(" then do
        let ((args, a), c) ← arguments r budget "(" closeParen a c.next.next
        return (a.push (.call (callee r token.value none) none args) token.line {}, c)
      else .ok (a.push (.variable token.value) token.line {}, c.next)
    else if token.isPunctuation "(" then do
      let (inner, c) ← binary r budget 0 a (c.next.enter .expression "(" token.line)
      let c ← c.close .expression "(" closeParen
      return (inner, c)
    else if token.isPunctuation "[" then do
      let ((items, a), c) ← arguments r budget "[" closeBracket a c.next
      return (a.push (.list items) token.line {}, c)
    else .error ⟨.expectedExpression token, token.line⟩

/-- Reads the indexes, attributes and method calls behind an operand, each of which becomes the owner of the operand. -/
def trailers (r : Registries) (budget : Nat) (base : NodeId) (a : Arena) (c : Cursor) : Reading :=
  match budget with
  | 0 => .error c.exhausted
  | budget + 1 =>
    let token := c.current
    if token.isPunctuation "[" then do
      let ((key, a), c) ← binary r budget 0 a (c.next.enter .array "[" token.line)
      let c ← c.close .array "[" closeBracket
      let (base, a) := a.push (.index base key) token.line {}
      trailers r budget base a c
    else if token.isPunctuation "." then
      let name := c.next.current
      let behind := c.next.next
      if isName name then
        if behind.current.isPunctuation "(" then do
          let ((args, a), c) ← arguments r budget "(" closeParen a behind.next
          let (base, a) := a.push (.call (callee r name.value (some base)) (some base) args) name.line {}
          trailers r budget base a c
        else
          let (key, a) := a.push (.identifier name.value) name.line {}
          let (base, a) := a.push (.index base key) token.line {}
          trailers r budget base a behind
      else if name.kind = .literal ∧ name.value.toList.all Char.isDigit then do
        let value ← literal name
        let (key, a) := a.push (.data value) name.line {}
        let (base, a) := a.push (.index base key) token.line {}
        trailers r budget base a behind
      else .error (.unexpected "attribute name" name)
    else .ok ((base, a), c)

/-- Reads expressions between commas behind a bracket, and the closer of the bracket. -/
def arguments (r : Registries) (budget : Nat) (label : String) (closer : TokenPattern) (a : Arena) (c : Cursor) : Readings :=
  match budget with
  | 0 => .error c.exhausted
  | budget + 1 => do
    let (items, c) ← items r budget closer a (c.enter .argumentList label c.current.line)
    let c ← c.close .argumentList label closer
    return (items, c)

/-- Reads expressions between commas, up to the closer. -/
def items (r : Registries) (budget : Nat) (closer : TokenPattern) (a : Arena) (c : Cursor) : Readings :=
  match budget with
  | 0 => .error c.exhausted
  | budget + 1 =>
    if closer.accepts c.current then .ok (([], a), c)
    else do
      let ((item, a), c) ← binary r budget 0 a c
      if c.current.isPunctuation "," then do
        let ((later, a), c) ← items r budget closer a c.next
        return ((item :: later, a), c)
      else return (([item], a), c)

end

/-- Reads an expression. -/
def expression (r : Registries) (a : Arena) (c : Cursor) : Reading :=
  binary r c.budget 0 a c

/-- Reads an expression and the end of the tag. -/
def expressionTag (r : Registries) (a : Arena) (c : Cursor) : Reading := do
  let (value, c) ← expression r a c
  let (_, c) ← tagEnd c
  return (value, c)

/-- Adds the nodes of a text. -/
def textNode (s : Setting) (text : Token) (a : Arena) : Except ParseError (NodeId × Arena) := do
  let id ← s.printTag text.line
  let (data, a) := a.push (.data (.string text.value)) text.line {}
  return a.push (.tag id [data]) text.line (Annotations.set {} "text" (.bool true))

/-- Reads an output. -/
def output (s : Setting) (a : Arena) (c : Cursor) : Reading := do
  let line := c.current.line
  let id ← s.printTag line
  let ((value, a), c) ← expression s.registries a (c.next.enter .expression "\x7b\x7b" line)
  let c ← c.close .expression "\x7b\x7b" (.kind .expressionEnd)
  return (a.push (.tag id [value]) line {}, c)

/-- Reads what stands between the keyword of a loop and the end of its tag, in brackets or not. -/
def loopHeader (r : Registries) (a : Arena) (c : Cursor) :
    Except ParseError ((LoopVariables × NodeId × Arena) × Cursor) := do
  let bracketed := c.current.isPunctuation "("
  let c := if bracketed then c.next.enter .expression "(" c.current.line else c
  let (targets, c) ← loopVariables c
  let (_, c) ← c.expectOneOf [.word "in"]
  let (iterable, c) ← expression r a c
  let c ← if bracketed then c.close .expression "(" closeParen else .ok c
  let (_, c) ← tagEnd c
  return ((targets, iterable), c)

mutual

/-- Reads a body up to a keyword of the innermost block or the end of the template. -/
def body (s : Setting) (budget : Nat) (a : Arena) (c : Cursor) : Readings :=
  match budget with
  | 0 => .error c.exhausted
  | budget + 1 =>
    match c.current.kind with
    | .eof =>
      match c.opened.head?.filter fun top => top.kind != .text with
      | some top => .error ⟨.unterminated top.label top.line, c.current.line⟩
      | none => .ok (([], a), c)
    | .text => do
      let (node, a) ← textNode s c.current a
      let ((later, a), c) ← body s budget a c.next
      return ((node :: later, a), c)
    | .expressionStart => do
      let ((node, a), c) ← output s a c
      let ((later, a), c) ← body s budget a c
      return ((node :: later, a), c)
    | .tagStart =>
      let head := c.stream.ahead 1
      if head.kind = .keyword ∧ s.registries.tags.isBlockKeyword head.value then
        if s.topOwns c head.value then .ok (([], a), c) else .error (s.misplaced c head)
      else do
        let ((node, a), c) ← tag s budget a c
        let ((later, a), c) ← body s budget a c
        return ((node :: later, a), c)
    | _ => .error (.unexpected "text, tag or expression" c.current)
termination_by structural budget

/-- Reads a body as a node. -/
def block (s : Setting) (budget : Nat) (line : Nat) (a : Arena) (c : Cursor) : Reading :=
  match budget with
  | 0 => .error c.exhausted
  | budget + 1 => do
    let ((children, a), c) ← body s budget a c
    return (a.push (.block children) line {}, c)
termination_by structural budget

/-- Reads a tag. -/
def tag (s : Setting) (budget : Nat) (a : Arena) (c : Cursor) : Reading :=
  match budget with
  | 0 => .error c.exhausted
  | budget + 1 => do
    let (start, c) ← c.expect .tagStart none
    let (id, c) ← resolveTag s c
    match s.registries.tags.get? id with
    | none => .error (.unexpected "tag name" c.current)
    | some definition =>
      if fitsGrammar definition c then tagRest s budget id definition start.line a c
      else .error ⟨.grammarMismatch definition.keyword definition.grammar c.current, c.current.line⟩
termination_by structural budget

/-- Reads a tag behind its keyword. -/
def tagRest (s : Setting) (budget : Nat) (id : Nat) (definition : TagDefinition) (line : Nat) (a : Arena)
    (c : Cursor) : Reading :=
  match budget with
  | 0 => .error c.exhausted
  | budget + 1 =>
    match definition.form with
    | .print => do
      let ((value, a), c) ← expressionTag s.registries a c
      return (a.push (.tag id [value]) line {}, c)
    | .inclusion => do
      let ((value, a), c) ← expressionTag s.registries a c
      return (a.push (.tag id [value]) line {}, c)
    | .assignment => do
      let (target, c) ← name "variable name" c
      let (_, c) ← c.expect .punctuation (some "=")
      let ((value, a), c) ← expressionTag s.registries a c
      return (a.push (.tag id [value]) line (Annotations.set {} "name" (.text target.value)), c)
    | .conditional => do
      let ((condition, a), c) ← expressionTag s.registries a c
      let ((first, a), c) ← block s budget line a (openBlock definition line c)
      let (((later, hasElse), a), c) ← branches s budget definition ifWords false a c
      return (a.push (.tag id (condition :: first :: later)) line (Annotations.set {} "has_else" (.bool hasElse)), c)
    | .loop => do
      let ((targets, iterable, a), c) ← loopHeader s.registries a c
      let ((first, a), c) ← block s budget line a (openBlock definition line c)
      let (((later, hasElse), a), c) ← branches s budget definition forWords false a c
      return (a.push (.tag id (iterable :: first :: later)) line (targets.notes hasElse), c)
    | .switch => do
      let ((subject, a), c) ← expressionTag s.registries a c
      let c ← firstBranch s line (openBlock definition line c)
      let (((later, hasDefault), a), c) ← branches s budget definition switchWords false a c
      return (a.push (.tag id (subject :: later)) line (Annotations.set {} "has_default" (.bool hasDefault)), c)
    | .nested => do
      let name := c.current.value
      let (_, c) ← tagEnd c.next
      let ((content, a), c) ← block s budget line a (openBlock definition line c)
      let (_, c) ← branchKeyword c
      let (last, c) ← tagEnd c
      let c ← closeBlock definition last.line c
      return (a.push (.tag id [content]) line (Annotations.set {} "name" (.text name)), c)
    | .custom takesExpression => do
      let ((values, a), c) ←
        if takesExpression then do
          let ((value, a), c) ← expression s.registries a c
          pure (([value], a), c)
        else pure (([], a), c)
      let (_, c) ← tagEnd c
      match definition.ending with
      | none => return (a.push (.tag id values) line {}, c)
      | some ending => do
        let ((later, a), c) ← customBranches s budget definition ending line a (openBlock definition line c)
        return (a.push (.tag id (values ++ later)) line {}, c)
termination_by structural budget

/-- Reads the branches of a core tag from a keyword on, and the end of its body. -/
def branches (s : Setting) (budget : Nat) (definition : TagDefinition) (words : BranchWords) (hasLast : Bool)
    (a : Arena) (c : Cursor) : Except ParseError (((List NodeId × Bool) × Arena) × Cursor) :=
  match budget with
  | 0 => .error c.exhausted
  | budget + 1 => do
    let (keyword, c) ← branchKeyword c
    if words.test = some keyword.value ∧ hasLast = false then do
      let ((value, a), c) ← expressionTag s.registries a c
      let ((content, a), c) ← block s budget keyword.line a c
      let (((later, hasLast), a), c) ← branches s budget definition words hasLast a c
      return (((value :: content :: later, hasLast), a), c)
    else if words.last = keyword.value ∧ hasLast = false then do
      let (_, c) ← tagEnd c
      let ((content, a), c) ← block s budget keyword.line a c
      let (((later, hasLast), a), c) ← branches s budget definition words true a c
      return (((content :: later, hasLast), a), c)
    else if words.ending = keyword.value then do
      let (last, c) ← tagEnd c
      let c ← closeBlock definition last.line c
      return ((([], hasLast), a), c)
    else .error (.unexpected ("`" ++ words.ending ++ "`") keyword)
termination_by structural budget

/-- Reads the branches of any other block tag, and the end of its body. -/
def customBranches (s : Setting) (budget : Nat) (definition : TagDefinition) (ending : String) (line : Nat)
    (a : Arena) (c : Cursor) : Readings :=
  match budget with
  | 0 => .error c.exhausted
  | budget + 1 => do
    let ((content, a), c) ← block s budget line a c
    let (keyword, c) ← branchKeyword c
    let (last, c) ← tagEnd c
    if keyword.value = ending then do
      let c ← closeBlock definition last.line c
      return (([content], a), c)
    else do
      let ((later, a), c) ← customBranches s budget definition ending keyword.line a c
      return ((content :: later, a), c)
termination_by structural budget

end

end Allocation

/-- Reads the tokens of a template into an arena. -/
def arena (s : Setting) (tokens : List Token) : Except ParseError Arena := do
  let start : Cursor := { stream := .ofTokens tokens }
  let ((children, a), c) ← Allocation.body s start.budget {} (start.enter .text "template" 1)
  let _ ← c.leave .text "template" c.current.line
  let (root, a) := a.push (.root children) 1 {}
  return { a with root := some root }

end Templating.Parse
