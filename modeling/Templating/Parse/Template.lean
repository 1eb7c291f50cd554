import Templating.Parse.Expression
import Templating.Text.Blank

/-! # Reading templates

A template is a body: text, outputs and tags in order. A block tag has bodies inside, and a body ends at a
keyword that belongs to the innermost block. Text and outputs are read as tags that print.
-/

namespace Templating.Parse

/-- What reading a template depends on. -/
structure Setting where
  /-- What the template may use. -/
  registries : Registries
  /-- The tag that stands in for a tag without a keyword. -/
  fallbackTag : Option String := none

namespace Setting

/-- The number of the tag that prints. -/
def printTag (s : Setting) (line : Nat) : Except ParseError Nat :=
  match s.registries.tags.lookup? printKeyword with
  | some id => .ok id
  | none => .error ⟨.unknownTag printKeyword, line⟩

/-- Whether a keyword belongs to the innermost block. -/
def topOwns (s : Setting) (c : Cursor) (keyword : String) : Bool :=
  match c.opened with
  | [] => false
  | top :: _ => top.kind.isBlock && s.registries.tags.ownsKeyword top.label keyword

/-- The error of a keyword that belongs to another block than the innermost one. -/
def misplaced (s : Setting) (c : Cursor) (keyword : Token) : ParseError :=
  if s.registries.tags.isEndingKeyword keyword.value then
    ⟨.unexpectedClosing keyword.value c.opened.innermostBlock?, keyword.line⟩
  else ⟨.continuationOutside keyword.value, keyword.line⟩

end Setting

/-- Passes the end of a tag. -/
def tagEnd (c : Cursor) : Except ParseError (Token × Cursor) :=
  c.expect .tagEnd none

/-- Passes a name: an identifier, or a word of an operator. -/
def name (what : String) (c : Cursor) : Except ParseError (Token × Cursor) :=
  let token := c.current
  if token.kind = .identifier ∨ (token.kind = .operator ∧ isWordLike token.value) then .ok (token, c.next)
  else .error (.unexpected what token)

/-- Passes the start of a tag and its keyword. -/
def branchKeyword (c : Cursor) : Except ParseError (Token × Cursor) := do
  let (_, c) ← c.expect .tagStart none
  c.expect .keyword none

/-- Reads an expression and the end of the tag. -/
def expressionTag (r : Registries) (c : Cursor) : Except ParseError (Tree × Cursor) := do
  let (value, c) ← expression r c
  let (_, c) ← tagEnd c
  return (value, c)

/-- The node of a text. -/
def textNode (s : Setting) (text : Token) : Except ParseError Tree := do
  let id ← s.printTag text.line
  return .tag id [.data (.string text.value) text.line {}] text.line (Annotations.set {} "text" (.bool true))

/-- Reads an output. -/
def output (s : Setting) (c : Cursor) : Except ParseError (Tree × Cursor) := do
  let line := c.current.line
  let id ← s.printTag line
  let (value, c) ← expression s.registries (c.next.enter .expression "\x7b\x7b" line)
  let c ← c.close .expression "\x7b\x7b" (.kind .expressionEnd)
  return (.tag id [value] line {}, c)

/-- The number of the tag that a tag start leads to, and the place behind its keyword. -/
def resolveTag (s : Setting) (c : Cursor) : Except ParseError (Nat × Cursor) :=
  let head := c.current
  let find (keyword : String) (behind : Cursor) : Except ParseError (Nat × Cursor) :=
    match s.registries.tags.lookup? keyword with
    | some id => .ok (id, behind)
    | none => .error ⟨.unknownTag keyword, head.line⟩
  if head.kind = .keyword then find head.value c.next
  else
    match s.fallbackTag with
    | some fallback => find fallback c
    | none =>
      if head.kind = .identifier then .error ⟨.unknownTag head.value, head.line⟩
      else .error (.unexpected "tag name" head)

/-- Whether the tokens to come fit one of the forms of a tag. -/
def fitsGrammar (tag : TagDefinition) (c : Cursor) : Bool :=
  tag.grammar.isEmpty || tag.grammar.any fun patterns => c.stream.testSequence patterns

/-- Opens the body of a tag. -/
def openBlock (tag : TagDefinition) (line : Nat) (c : Cursor) : Cursor :=
  c.enter tag.bodyState tag.keyword line

/-- Closes the body of a tag. -/
def closeBlock (tag : TagDefinition) (line : Nat) (c : Cursor) : Except ParseError Cursor :=
  c.leave tag.bodyState tag.keyword line

/-- The keywords that divide the body of a core tag. -/
structure BranchWords where
  /-- Starts a branch with an expression, if there are such branches. -/
  test : Option String
  /-- Starts the last branch, which has no expression. -/
  last : String
  /-- Ends the body. -/
  ending : String

/-- The branches of a condition. -/
def ifWords : BranchWords := ⟨some "elseif", "else", "endif"⟩

/-- The branches of a loop. -/
def forWords : BranchWords := ⟨none, "else", "endfor"⟩

/-- The branches of a choice. -/
def switchWords : BranchWords := ⟨some "case", "default", "endswitch"⟩

/-- Passes texts of blanks only, of which `count` at most. -/
def skipBlankText (c : Cursor) : Nat → Except ParseError Cursor
  | 0 => .ok c
  | count + 1 =>
    if c.current.kind = .text then
      if c.current.value.toList.all Text.isBlank then skipBlankText c.next count
      else .error ⟨.switchBranch c.current, c.current.line⟩
    else .ok c

/-- Passes the blanks before the first branch of a choice, and checks that a branch follows. -/
def firstBranch (s : Setting) (line : Nat) (c : Cursor) : Except ParseError Cursor := do
  let c ← skipBlankText c (c.stream.later.length + 1)
  let head := c.stream.ahead 1
  if c.current.kind = .eof then .error ⟨.unterminated "switch" line, c.current.line⟩
  else if c.current.kind = .tagStart then
    if head.kind = .keyword ∧ s.registries.tags.ownsKeyword "switch" head.value then .ok c
    else .error ⟨.switchBranch head, head.line⟩
  else .error ⟨.switchBranch c.current, c.current.line⟩

/-- The variables of a loop. -/
structure LoopVariables where
  /-- The variable of the keys, if there is one. -/
  key : Option String
  /-- The variable of the values. -/
  value : String

/-- The annotations of a loop. -/
def LoopVariables.notes (v : LoopVariables) (hasElse : Bool) : Annotations :=
  let notes := (Annotations.set {} "value_var" (.text v.value)).set "has_else" (.bool hasElse)
  match v.key with
  | some key => notes.set "key_var" (.text key)
  | none => notes

/-- Reads the variables of a loop. -/
def loopVariables (c : Cursor) : Except ParseError (LoopVariables × Cursor) := do
  let (first, c) ← name "loop variable" c
  if c.current.isPunctuation "," then do
    let (second, c) ← name "loop variable" c.next
    return (⟨some first.value, second.value⟩, c)
  else return (⟨none, first.value⟩, c)

/-- Reads what stands between the keyword of a loop and the end of its tag, in brackets or not. -/
def loopHeader (r : Registries) (c : Cursor) : Except ParseError ((LoopVariables × Tree) × Cursor) := do
  let bracketed := c.current.isPunctuation "("
  let c := if bracketed then c.next.enter .expression "(" c.current.line else c
  let (targets, c) ← loopVariables c
  let (_, c) ← c.expectOneOf [.word "in"]
  let (iterable, c) ← expression r c
  let c ← if bracketed then c.close .expression "(" closeParen else .ok c
  let (_, c) ← tagEnd c
  return ((targets, iterable), c)

mutual

/-- Reads a body up to a keyword of the innermost block or the end of the template. -/
def body (s : Setting) (budget : Nat) (c : Cursor) : Except ParseError (List Tree × Cursor) :=
  match budget with
  | 0 => .error c.exhausted
  | budget + 1 =>
    match c.current.kind with
    | .eof =>
      match c.opened.head?.filter fun top => top.kind != .text with
      | some top => .error ⟨.unterminated top.label top.line, c.current.line⟩
      | none => .ok ([], c)
    | .text => do
      let node ← textNode s c.current
      let (later, c) ← body s budget c.next
      return (node :: later, c)
    | .expressionStart => do
      let (node, c) ← output s c
      let (later, c) ← body s budget c
      return (node :: later, c)
    | .tagStart =>
      let head := c.stream.ahead 1
      if head.kind = .keyword ∧ s.registries.tags.isBlockKeyword head.value then
        if s.topOwns c head.value then .ok ([], c) else .error (s.misplaced c head)
      else do
        let (node, c) ← tag s budget c
        let (later, c) ← body s budget c
        return (node :: later, c)
    | _ => .error (.unexpected "text, tag or expression" c.current)

/-- Reads a body as a node. -/
def block (s : Setting) (budget : Nat) (line : Nat) (c : Cursor) : Except ParseError (Tree × Cursor) :=
  match budget with
  | 0 => .error c.exhausted
  | budget + 1 => do
    let (children, c) ← body s budget c
    return (.block children line {}, c)

/-- Reads a tag. -/
def tag (s : Setting) (budget : Nat) (c : Cursor) : Except ParseError (Tree × Cursor) :=
  match budget with
  | 0 => .error c.exhausted
  | budget + 1 => do
    let (start, c) ← c.expect .tagStart none
    let (id, c) ← resolveTag s c
    match s.registries.tags.get? id with
    | none => .error (.unexpected "tag name" c.current)
    | some definition =>
      if fitsGrammar definition c then tagRest s budget id definition start.line c
      else .error ⟨.grammarMismatch definition.keyword definition.grammar c.current, c.current.line⟩

/-- Reads a tag behind its keyword. -/
def tagRest (s : Setting) (budget : Nat) (id : Nat) (definition : TagDefinition) (line : Nat)
    (c : Cursor) : Except ParseError (Tree × Cursor) :=
  match budget with
  | 0 => .error c.exhausted
  | budget + 1 =>
    match definition.form with
    | .print => do
      let (value, c) ← expressionTag s.registries c
      return (.tag id [value] line {}, c)
    | .inclusion => do
      let (value, c) ← expressionTag s.registries c
      return (.tag id [value] line {}, c)
    | .assignment => do
      let (target, c) ← name "variable name" c
      let (_, c) ← c.expect .punctuation (some "=")
      let (value, c) ← expressionTag s.registries c
      return (.tag id [value] line (Annotations.set {} "name" (.text target.value)), c)
    | .conditional => do
      let (condition, c) ← expressionTag s.registries c
      let (first, c) ← block s budget line (openBlock definition line c)
      let ((later, hasElse), c) ← branches s budget definition ifWords false c
      return (.tag id (condition :: first :: later) line (Annotations.set {} "has_else" (.bool hasElse)), c)
    | .loop => do
      let ((targets, iterable), c) ← loopHeader s.registries c
      let (first, c) ← block s budget line (openBlock definition line c)
      let ((later, hasElse), c) ← branches s budget definition forWords false c
      return (.tag id (iterable :: first :: later) line (targets.notes hasElse), c)
    | .switch => do
      let (subject, c) ← expressionTag s.registries c
      let c ← firstBranch s line (openBlock definition line c)
      let ((later, hasDefault), c) ← branches s budget definition switchWords false c
      return (.tag id (subject :: later) line (Annotations.set {} "has_default" (.bool hasDefault)), c)
    | .nested => do
      let name := c.current.value
      let (_, c) ← tagEnd c.next
      let (content, c) ← block s budget line (openBlock definition line c)
      let (_, c) ← branchKeyword c
      let (last, c) ← tagEnd c
      let c ← closeBlock definition last.line c
      return (.tag id [content] line (Annotations.set {} "name" (.text name)), c)
    | .custom takesExpression => do
      let (values, c) ←
        if takesExpression then do
          let (value, c) ← expression s.registries c
          pure ([value], c)
        else pure ([], c)
      let (_, c) ← tagEnd c
      match definition.ending with
      | none => return (.tag id values line {}, c)
      | some ending => do
        let (later, c) ← customBranches s budget definition ending line (openBlock definition line c)
        return (.tag id (values ++ later) line {}, c)

/-- Reads the branches of a core tag from a keyword on, and the end of its body. The result says whether
there is a last branch without an expression; behind it, nothing but the end may come. -/
def branches (s : Setting) (budget : Nat) (definition : TagDefinition) (words : BranchWords)
    (hasLast : Bool) (c : Cursor) : Except ParseError ((List Tree × Bool) × Cursor) :=
  match budget with
  | 0 => .error c.exhausted
  | budget + 1 => do
    let (keyword, c) ← branchKeyword c
    if words.test = some keyword.value ∧ hasLast = false then do
      let (value, c) ← expressionTag s.registries c
      let (content, c) ← block s budget keyword.line c
      let ((later, hasLast), c) ← branches s budget definition words hasLast c
      return ((value :: content :: later, hasLast), c)
    else if words.last = keyword.value ∧ hasLast = false then do
      let (_, c) ← tagEnd c
      let (content, c) ← block s budget keyword.line c
      let ((later, hasLast), c) ← branches s budget definition words true c
      return ((content :: later, hasLast), c)
    else if words.ending = keyword.value then do
      let (last, c) ← tagEnd c
      let c ← closeBlock definition last.line c
      return (([], hasLast), c)
    else .error (.unexpected ("`" ++ words.ending ++ "`") keyword)

/-- Reads the branches of any other block tag, and the end of its body. -/
def customBranches (s : Setting) (budget : Nat) (definition : TagDefinition) (ending : String)
    (line : Nat) (c : Cursor) : Except ParseError (List Tree × Cursor) :=
  match budget with
  | 0 => .error c.exhausted
  | budget + 1 => do
    let (content, c) ← block s budget line c
    let (keyword, c) ← branchKeyword c
    let (last, c) ← tagEnd c
    if keyword.value = ending then do
      let c ← closeBlock definition last.line c
      return ([content], c)
    else do
      let (later, c) ← customBranches s budget definition ending keyword.line c
      return (content :: later, c)

end

/-- Reads the tokens of a template. -/
def template (s : Setting) (tokens : List Token) : Except ParseError Tree := do
  let start : Cursor := { stream := .ofTokens tokens }
  let (children, c) ← body s start.budget (start.enter .text "template" 1)
  let _ ← c.leave .text "template" c.current.line
  return .root children 1 {}

end Templating.Parse
