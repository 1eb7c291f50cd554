import Templating.Proofs.Cursor
import Templating.Parse.Template

/-! # Scripts of readers

The readers of a template call each other and themselves, each with a unit of the budget less. Without the budget, a reader
follows a script: it comes to an end, or it asks what a call of a reader gives and goes on from there. A reader with a budget
does what its script says, with readers of a smaller budget to answer, so the calls in its script are the calls that it makes.
-/

namespace Templating.Parse

/-- A reader. A loop over operators, trailers, items, the parts of a body or branches is a reader that calls itself. -/
inductive Reader where
  | binary | climb | operands | unary | primary | trailers | arguments | items | expression
  | body | block | tag | tagRest | branches | customBranches
deriving DecidableEq

/-- A call of a reader. -/
inductive Call where
  | binary (least : UInt8) (c : Cursor)
  | climb (least : UInt8) (left : Tree) (earlier : Option (UInt8 × String)) (c : Cursor)
  | operands (found : OperatorRegistry.Found) (left : Tree) (line : Nat) (c : Cursor)
  | unary (c : Cursor)
  | primary (c : Cursor)
  | trailers (base : Tree) (c : Cursor)
  | arguments (label text : String) (c : Cursor)
  | items (closer : TokenPattern) (c : Cursor)
  | expression (c : Cursor)
  | body (c : Cursor)
  | block (line : Nat) (c : Cursor)
  | tag (c : Cursor)
  | tagRest (id : Nat) (definition : TagDefinition) (line : Nat) (c : Cursor)
  | branches (definition : TagDefinition) (words : BranchWords) (hasLast : Bool) (c : Cursor)
  | customBranches (definition : TagDefinition) (ending : String) (line : Nat) (c : Cursor)

namespace Call

/-- The reader that is called. -/
def reader : Call → Reader
  | binary .. => .binary
  | climb .. => .climb
  | operands .. => .operands
  | unary .. => .unary
  | primary .. => .primary
  | trailers .. => .trailers
  | arguments .. => .arguments
  | items .. => .items
  | expression .. => .expression
  | body .. => .body
  | block .. => .block
  | tag .. => .tag
  | tagRest .. => .tagRest
  | branches .. => .branches
  | customBranches .. => .customBranches

/-- Where it is called. -/
def cursor : Call → Cursor
  | binary _ c | climb _ _ _ c | operands _ _ _ c | unary c | primary c | trailers _ c | arguments _ _ c | items _ c
  | expression c | body c | block _ c | tag c | tagRest _ _ _ c | branches _ _ _ c | customBranches _ _ _ c => c

/-- What it gives, apart from the place behind. -/
@[reducible] def Value : Call → Type
  | arguments .. | items .. | body .. | customBranches .. => List Tree
  | branches .. => List Tree × Bool
  | _ => Tree

/-- What the reader gives with a budget. An expression in a template has a budget of its own. -/
def answer (s : Setting) (budget : Nat) : (call : Call) → Except ParseError (call.Value × Cursor)
  | binary least c => Parse.binary s.registries budget least c
  | climb least left earlier c => Parse.climb s.registries budget least left earlier c
  | operands found left line c => Parse.operands s.registries budget found left line c
  | unary c => Parse.unary s.registries budget c
  | primary c => Parse.primary s.registries budget c
  | trailers base c => Parse.trailers s.registries budget base c
  | arguments label text c => Parse.arguments s.registries budget label (.exact .punctuation text) c
  | items closer c => Parse.items s.registries budget closer c
  | expression c => Parse.expression s.registries c
  | body c => Parse.body s budget c
  | block line c => Parse.block s budget line c
  | tag c => Parse.tag s budget c
  | tagRest id definition line c => Parse.tagRest s budget id definition line c
  | branches definition words hasLast c => Parse.branches s budget definition words hasLast c
  | customBranches definition ending line c => Parse.customBranches s budget definition ending line c

end Call

/-- What a reader does: it comes to an end, or it asks for a call and goes on with what that gives. -/
inductive Script (α : Type) : Type where
  | ended (result : Except ParseError α)
  | ask (call : Call) (behind : call.Value × Cursor → Script α)

namespace Script

variable {α β : Type}

def bind : Script α → (α → Script β) → Script β
  | ended (.ok a), next => next a
  | ended (.error e), _ => ended (.error e)
  | ask call behind, next => ask call fun given => (behind given).bind next

instance : Monad Script where
  pure a := ended (.ok a)
  bind := bind

instance : MonadLift (Except ParseError) Script :=
  ⟨ended⟩

/-- Does what a script says, with an answer to every call. -/
def run (answer : (call : Call) → Except ParseError (call.Value × Cursor)) : Script α → Except ParseError α
  | ended result => result
  | ask call behind => answer call >>= fun given => (behind given).run answer

variable {answer : (call : Call) → Except ParseError (call.Value × Cursor)}

@[simp] theorem run_ended (result : Except ParseError α) : (ended result).run answer = result :=
  rfl

@[simp] theorem run_pure (a : α) : (pure a : Script α).run answer = .ok a :=
  rfl

@[simp] theorem run_lift (result : Except ParseError α) : (liftM result : Script α).run answer = result :=
  rfl

@[simp] theorem run_ite {p : Prop} [Decidable p] (script other : Script α) :
    (if p then script else other).run answer = if p then script.run answer else other.run answer :=
  apply_ite _ p script other

@[simp] theorem run_bind (script : Script α) (next : α → Script β) :
    (script >>= next).run answer = script.run answer >>= fun a => (next a).run answer := by
  change (script.bind next).run answer = _
  induction script with
  | ended result => cases result <;> rfl
  | ask call behind ih =>
      simp only [bind, run, ih]
      cases answer call <;> rfl

end Script

/-- Asks for a call and gives what it gives. -/
def Call.asked (call : Call) : Script (call.Value × Cursor) :=
  .ask call fun given => .ended (.ok given)

@[simp] theorem Script.run_asked {answer : (call : Call) → Except ParseError (call.Value × Cursor)} (call : Call) :
    @Script.run (no_index (call.Value × Cursor)) answer call.asked = answer call := by
  cases given : answer call <;> simp only [Call.asked, run, given] <;> rfl

namespace Script

variable (s : Setting)

def binary (least : UInt8) (c : Cursor) : Script (Tree × Cursor) := do
  let (left, c) ← (Call.unary c).asked
  (Call.climb least left none c).asked

def climb (least : UInt8) (left : Tree) (earlier : Option (UInt8 × String)) (c : Cursor) : Script (Tree × Cursor) :=
  match s.registries.operators.binaryAt? c.stream.remaining with
  | none =>
    if c.current.kind = .operator ∧ !isWordLike c.current.value then
      ended (.error ⟨.unknownOperator c.current.value, c.current.line⟩)
    else pure (left, c)
  | some found =>
    let definition := found.definition
    if definition.precedence < least then pure (left, c)
    else
      match earlier.filter fun pair => pair.1 == definition.precedence with
      | some (_, name) => ended (.error ⟨.chained name definition.name, c.current.line⟩)
      | none => do
        let (node, behind) ← (Call.operands found left c.current.line (c.skip found.length)).asked
        let earlier :=
          if definition.associativity = .none then some (definition.precedence, definition.name) else none
        (Call.climb least node earlier behind).asked

def operands (found : OperatorRegistry.Found) (left : Tree) (line : Nat) (c : Cursor) : Script (Tree × Cursor) :=
  match found.definition.arity with
  | .binary => do
    let (right, c) ← (Call.binary found.definition.rightLimit c).asked
    return (.operator found.id (some left) none (some right) line {}, c)
  | .test true => do
    let (right, c) ← (Call.binary (tighter found.definition.precedence) c).asked
    return (.operator found.id (some left) none (some right) line {}, c)
  | .ternary => do
    let (middle, c) ← (Call.binary 0 c).asked
    let (_, c) ← c.expect .punctuation (some ":")
    let (right, c) ← (Call.binary found.definition.precedence c).asked
    return (.operator found.id (some left) (some middle) (some right) line {}, c)
  | .test false => pure (.operator found.id (some left) none none line {}, c)
  | .unaryPrefix => pure (.operator found.id (some left) none none line {}, c)

def unary (c : Cursor) : Script (Tree × Cursor) :=
  match s.registries.operators.unaryAt? c.stream.remaining with
  | some found => do
    let (operand, behind) ← (Call.binary found.definition.precedence (c.skip found.length)).asked
    return (.operator found.id none none (some operand) c.current.line {}, behind)
  | none => do
    let (base, c) ← (Call.primary c).asked
    (Call.trailers base c).asked

def primary (c : Cursor) : Script (Tree × Cursor) :=
  let token := c.current
  if token.kind = .literal then do
    let value ← literal token
    return (.data value token.line {}, c.next)
  else if token.kind = .string then pure (.data (.string token.value) token.line {}, c.next)
  else if isName token then
    if c.next.current.isPunctuation "(" then do
      let (args, c) ← (Call.arguments "(" ")" c.next.next).asked
      return (.call (callee s.registries token.value none) none args token.line {}, c)
    else pure (.variable token.value token.line {}, c.next)
  else if token.isPunctuation "(" then do
    let (inner, c) ← (Call.binary 0 (c.next.enter .expression "(" token.line)).asked
    let c ← c.close .expression "(" closeParen
    return (inner, c)
  else if token.isPunctuation "[" then do
    let (items, c) ← (Call.arguments "[" "]" c.next).asked
    return (.list items token.line {}, c)
  else ended (.error ⟨.expectedExpression token, token.line⟩)

def trailers (base : Tree) (c : Cursor) : Script (Tree × Cursor) :=
  let token := c.current
  if token.isPunctuation "[" then do
    let (key, c) ← (Call.binary 0 (c.next.enter .array "[" token.line)).asked
    let c ← c.close .array "[" closeBracket
    (Call.trailers (.index base key token.line {}) c).asked
  else if token.isPunctuation "." then
    let name := c.next.current
    let behind := c.next.next
    if isName name then
      if behind.current.isPunctuation "(" then do
        let (args, c) ← (Call.arguments "(" ")" behind.next).asked
        (Call.trailers (.call (callee s.registries name.value (some base)) (some base) args name.line {}) c).asked
      else (Call.trailers (.index base (.identifier name.value name.line {}) token.line {}) behind).asked
    else if name.kind = .literal ∧ name.value.toList.all Char.isDigit then do
      let value ← literal name
      (Call.trailers (.index base (.data value name.line {}) token.line {}) behind).asked
    else ended (.error (.unexpected "attribute name" name))
  else pure (base, c)

def arguments (label text : String) (c : Cursor) : Script (List Tree × Cursor) := do
  let (items, c) ← (Call.items (.exact .punctuation text) (c.enter .argumentList label c.current.line)).asked
  let c ← c.close .argumentList label (.exact .punctuation text)
  return (items, c)

def items (closer : TokenPattern) (c : Cursor) : Script (List Tree × Cursor) :=
  if closer.accepts c.current then pure ([], c)
  else do
    let (item, c) ← (Call.binary 0 c).asked
    if c.current.isPunctuation "," then do
      let (later, c) ← (Call.items closer c.next).asked
      return (item :: later, c)
    else return ([item], c)

def expressionTag (c : Cursor) : Script (Tree × Cursor) := do
  let (value, c) ← (Call.expression c).asked
  let (_, c) ← tagEnd c
  return (value, c)

def output (c : Cursor) : Script (Tree × Cursor) := do
  let line := c.current.line
  let id ← s.printTag line
  let (value, c) ← (Call.expression (c.next.enter .expression "\x7b\x7b" line)).asked
  let c ← c.close .expression "\x7b\x7b" (.kind .expressionEnd)
  return (.tag id [value] line {}, c)

def loopHeader (c : Cursor) : Script ((LoopVariables × Tree) × Cursor) := do
  let bracketed := c.current.isPunctuation "("
  let c := if bracketed then c.next.enter .expression "(" c.current.line else c
  let (targets, c) ← loopVariables c
  let (_, c) ← c.expectOneOf [.word "in"]
  let (iterable, c) ← (Call.expression c).asked
  let c ← if bracketed then liftM (c.close .expression "(" closeParen) else pure c
  let (_, c) ← tagEnd c
  return ((targets, iterable), c)

def body (c : Cursor) : Script (List Tree × Cursor) :=
  match c.current.kind with
  | .eof =>
    match c.opened.head?.filter fun top => top.kind != .text with
    | some top => ended (.error ⟨.unterminated top.label top.line, c.current.line⟩)
    | none => pure ([], c)
  | .text => do
    let node ← textNode s c.current
    let (later, c) ← (Call.body c.next).asked
    return (node :: later, c)
  | .expressionStart => do
    let (node, c) ← output s c
    let (later, c) ← (Call.body c).asked
    return (node :: later, c)
  | .tagStart =>
    let head := c.stream.ahead 1
    if head.kind = .keyword ∧ s.registries.tags.isBlockKeyword head.value then
      if s.topOwns c head.value then pure ([], c) else ended (.error (s.misplaced c head))
    else do
      let (node, c) ← (Call.tag c).asked
      let (later, c) ← (Call.body c).asked
      return (node :: later, c)
  | _ => ended (.error (.unexpected "text, tag or expression" c.current))

def block (line : Nat) (c : Cursor) : Script (Tree × Cursor) := do
  let (children, c) ← (Call.body c).asked
  return (.block children line {}, c)

def tag (c : Cursor) : Script (Tree × Cursor) := do
  let (start, c) ← c.expect .tagStart none
  let (id, c) ← resolveTag s c
  match s.registries.tags.get? id with
  | none => ended (.error (.unexpected "tag name" c.current))
  | some definition =>
    if fitsGrammar definition c then (Call.tagRest id definition start.line c).asked
    else ended (.error ⟨.grammarMismatch definition.keyword definition.grammar c.current, c.current.line⟩)

/-- Ends a registered tag, behind the values in it, and reads what the tag holds. -/
def registeredRest (id : Nat) (definition : TagDefinition) (line : Nat) (values : List Tree) (c : Cursor) :
    Script (Tree × Cursor) := do
  let (_, c) ← tagEnd c
  match definition.ending with
  | none => return (.tag id values line {}, c)
  | some ending => do
    let (later, c) ← (Call.customBranches definition ending line (openBlock definition line c)).asked
    return (.tag id (values ++ later) line {}, c)

def tagRest (id : Nat) (definition : TagDefinition) (line : Nat) (c : Cursor) : Script (Tree × Cursor) :=
  match definition.form with
  | .print => do
    let (value, c) ← expressionTag c
    return (.tag id [value] line {}, c)
  | .inclusion => do
    let (value, c) ← expressionTag c
    return (.tag id [value] line {}, c)
  | .assignment => do
    let (target, c) ← name "variable name" c
    let (_, c) ← c.expect .punctuation (some "=")
    let (value, c) ← expressionTag c
    return (.tag id [value] line (Annotations.set {} "name" (.text target.value)), c)
  | .conditional => do
    let (condition, c) ← expressionTag c
    let (first, c) ← (Call.block line (openBlock definition line c)).asked
    let ((later, hasElse), c) ← (Call.branches definition ifWords false c).asked
    return (.tag id (condition :: first :: later) line (Annotations.set {} "has_else" (.bool hasElse)), c)
  | .loop => do
    let ((targets, iterable), c) ← loopHeader c
    let (first, c) ← (Call.block line (openBlock definition line c)).asked
    let ((later, hasElse), c) ← (Call.branches definition forWords false c).asked
    return (.tag id (iterable :: first :: later) line (targets.notes hasElse), c)
  | .switch => do
    let (subject, c) ← expressionTag c
    let c ← firstBranch s line (openBlock definition line c)
    let ((later, hasDefault), c) ← (Call.branches definition switchWords false c).asked
    return (.tag id (subject :: later) line (Annotations.set {} "has_default" (.bool hasDefault)), c)
  | .nested => do
    let name := c.current.value
    let (_, c) ← tagEnd c.next
    let (content, c) ← (Call.block line (openBlock definition line c)).asked
    let (_, c) ← branchKeyword c
    let (last, c) ← tagEnd c
    let c ← closeBlock definition last.line c
    return (.tag id [content] line (Annotations.set {} "name" (.text name)), c)
  | .custom takesExpression => do
    let (values, c) ←
      if takesExpression then do
        let (value, c) ← (Call.expression c).asked
        pure ([value], c)
      else pure ([], c)
    registeredRest id definition line values c

def branches (definition : TagDefinition) (words : BranchWords) (hasLast : Bool) (c : Cursor) :
    Script ((List Tree × Bool) × Cursor) := do
  let (keyword, c) ← branchKeyword c
  if words.test = some keyword.value ∧ hasLast = false then do
    let (value, c) ← expressionTag c
    let (content, c) ← (Call.block keyword.line c).asked
    let ((later, hasLast), c) ← (Call.branches definition words hasLast c).asked
    return ((value :: content :: later, hasLast), c)
  else if words.last = keyword.value ∧ hasLast = false then do
    let (_, c) ← tagEnd c
    let (content, c) ← (Call.block keyword.line c).asked
    let ((later, hasLast), c) ← (Call.branches definition words true c).asked
    return ((content :: later, hasLast), c)
  else if words.ending = keyword.value then do
    let (last, c) ← tagEnd c
    let c ← closeBlock definition last.line c
    return (([], hasLast), c)
  else ended (.error (.unexpected ("`" ++ words.ending ++ "`") keyword))

def customBranches (definition : TagDefinition) (ending : String) (line : Nat) (c : Cursor) :
    Script (List Tree × Cursor) := do
  let (content, c) ← (Call.block line c).asked
  let (keyword, c) ← branchKeyword c
  let (last, c) ← tagEnd c
  if keyword.value = ending then do
    let c ← closeBlock definition last.line c
    return ([content], c)
  else do
    let (later, c) ← (Call.customBranches definition ending keyword.line c).asked
    return (content :: later, c)

end Script

/-- The script of the reader that is called. -/
def Call.script (s : Setting) : (call : Call) → Script (call.Value × Cursor)
  | binary least c => Script.binary least c
  | climb least left earlier c => Script.climb s least left earlier c
  | operands found left line c => Script.operands found left line c
  | unary c => Script.unary s c
  | primary c => Script.primary s c
  | trailers base c => Script.trailers s base c
  | arguments label text c => Script.arguments label text c
  | items closer c => Script.items closer c
  | expression c => (Call.binary 0 c).asked
  | body c => Script.body s c
  | block line c => Script.block line c
  | tag c => Script.tag s c
  | tagRest id definition line c => Script.tagRest s id definition line c
  | branches definition words hasLast c => Script.branches definition words hasLast c
  | customBranches definition ending line c => Script.customBranches definition ending line c

section

variable {s : Setting} {budget : Nat}

theorem run_binary (least : UInt8) (c : Cursor) :
    (Script.binary least c).run (Call.answer s budget) = Parse.binary s.registries (budget + 1) least c := by
  rw [Parse.binary]
  simp only [Script.binary, Script.run_bind, Script.run_asked]
  rfl

theorem run_climb (least : UInt8) (left : Tree) (earlier : Option (UInt8 × String)) (c : Cursor) :
    (Script.climb s least left earlier c).run (Call.answer s budget) =
      Parse.climb s.registries (budget + 1) least left earlier c := by
  rw [Parse.climb, Script.climb]
  cases s.registries.operators.binaryAt? c.stream.remaining with
  | none =>
      dsimp only
      split <;> rfl
  | some found =>
      dsimp only
      cases earlier.filter fun pair => pair.1 == found.definition.precedence with
      | some pair => split <;> rfl
      | none =>
          simp only [Script.run_ite, Script.run_bind, Script.run_asked]
          rfl

theorem run_operands (found : OperatorRegistry.Found) (left : Tree) (line : Nat) (c : Cursor) :
    (Script.operands found left line c).run (Call.answer s budget) =
      Parse.operands s.registries (budget + 1) found left line c := by
  rw [Parse.operands, Script.operands]
  cases found.definition.arity with
  | binary => simp only [Script.run_bind, Script.run_asked]; rfl
  | unaryPrefix => rfl
  | test takesArgument =>
      cases takesArgument with
      | true => simp only [Script.run_bind, Script.run_asked]; rfl
      | false => rfl
  | ternary =>
      simp only [Script.run_bind, Script.run_asked, Script.run_lift]
      rfl

theorem run_unary (c : Cursor) :
    (Script.unary s c).run (Call.answer s budget) = Parse.unary s.registries (budget + 1) c := by
  rw [Parse.unary, Script.unary]
  cases s.registries.operators.unaryAt? c.stream.remaining with
  | some found => simp only [Script.run_bind, Script.run_asked]; rfl
  | none => simp only [Script.run_bind, Script.run_asked]; rfl

theorem run_primary (c : Cursor) :
    (Script.primary s c).run (Call.answer s budget) = Parse.primary s.registries (budget + 1) c := by
  rw [Parse.primary, Script.primary]
  simp only [Script.run_ite, Script.run_bind, Script.run_asked, Script.run_lift, Script.run_pure, Script.run_ended]
  rfl

theorem run_trailers (base : Tree) (c : Cursor) :
    (Script.trailers s base c).run (Call.answer s budget) = Parse.trailers s.registries (budget + 1) base c := by
  rw [Parse.trailers, Script.trailers]
  simp only [Script.run_ite, Script.run_bind, Script.run_asked, Script.run_lift, Script.run_pure, Script.run_ended]
  rfl

theorem run_arguments (label text : String) (c : Cursor) :
    (Script.arguments label text c).run (Call.answer s budget) =
      Parse.arguments s.registries (budget + 1) label (.exact .punctuation text) c := by
  rw [Parse.arguments, Script.arguments]
  simp only [Script.run_bind, Script.run_asked, Script.run_lift]
  rfl

theorem run_items (closer : TokenPattern) (c : Cursor) :
    (Script.items closer c).run (Call.answer s budget) = Parse.items s.registries (budget + 1) closer c := by
  rw [Parse.items, Script.items]
  simp only [Script.run_ite, Script.run_bind, Script.run_asked]
  rfl

theorem run_expressionTag (c : Cursor) :
    (Script.expressionTag c).run (Call.answer s budget) = Parse.expressionTag s.registries c := by
  simp only [Script.expressionTag, Script.run_bind, Script.run_asked, Script.run_lift]
  rfl

theorem run_output (c : Cursor) : (Script.output s c).run (Call.answer s budget) = Parse.output s c := by
  simp only [Script.output, Script.run_bind, Script.run_asked, Script.run_lift]
  rfl

theorem run_loopHeader (c : Cursor) :
    (Script.loopHeader c).run (Call.answer s budget) = Parse.loopHeader s.registries c := by
  simp only [Script.loopHeader, Script.run_ite, Script.run_bind, Script.run_asked, Script.run_lift, Script.run_pure]
  rfl

theorem run_body (c : Cursor) : (Script.body s c).run (Call.answer s budget) = Parse.body s (budget + 1) c := by
  rw [Parse.body, Script.body]
  cases c.current.kind with
  | eof =>
      dsimp only
      cases c.opened.head?.filter fun top => top.kind != .text <;> rfl
  | text =>
      simp only [Script.run_bind, Script.run_asked, Script.run_lift]
      rfl
  | expressionStart =>
      simp only [Script.run_bind, Script.run_asked, run_output]
      rfl
  | tagStart =>
      simp only [Script.run_ite, Script.run_bind, Script.run_asked]
      rfl
  | _ => rfl

theorem run_block (line : Nat) (c : Cursor) :
    (Script.block line c).run (Call.answer s budget) = Parse.block s (budget + 1) line c := by
  rw [Parse.block]
  simp only [Script.block, Script.run_bind, Script.run_asked]
  rfl

theorem run_tag (c : Cursor) : (Script.tag s c).run (Call.answer s budget) = Parse.tag s (budget + 1) c := by
  rw [Parse.tag]
  simp only [Script.tag, Script.run_bind, Script.run_lift]
  refine bind_congr fun start => bind_congr fun resolved => ?_
  cases s.registries.tags.get? resolved.1 with
  | none => rfl
  | some definition =>
      simp only [Script.run_ite, Script.run_asked]
      rfl

theorem run_tagRest (id : Nat) (definition : TagDefinition) (line : Nat) (c : Cursor) :
    (Script.tagRest s id definition line c).run (Call.answer s budget) =
      Parse.tagRest s (budget + 1) id definition line c := by
  rw [Parse.tagRest, Script.tagRest]
  cases definition.form with
  | custom takesExpression =>
      dsimp only [Script.registeredRest]
      cases takesExpression <;> cases definition.ending <;>
        simp only [Script.run_ite, Script.run_bind, Script.run_asked, Script.run_lift, Script.run_pure] <;> rfl
  | _ =>
      simp only [Script.run_bind, Script.run_asked, Script.run_lift, run_expressionTag, run_loopHeader]
      rfl

theorem run_branches (definition : TagDefinition) (words : BranchWords) (hasLast : Bool) (c : Cursor) :
    (Script.branches definition words hasLast c).run (Call.answer s budget) =
      Parse.branches s (budget + 1) definition words hasLast c := by
  rw [Parse.branches]
  simp only [Script.branches, Script.run_ite, Script.run_bind, Script.run_asked, Script.run_lift, run_expressionTag]
  rfl

theorem run_customBranches (definition : TagDefinition) (ending : String) (line : Nat) (c : Cursor) :
    (Script.customBranches definition ending line c).run (Call.answer s budget) =
      Parse.customBranches s (budget + 1) definition ending line c := by
  rw [Parse.customBranches]
  simp only [Script.customBranches, Script.run_ite, Script.run_bind, Script.run_asked, Script.run_lift]
  rfl

/-- A reader with a budget does what its script says, with readers of one unit less to answer. -/
theorem Call.run_script (call : Call) (within : call.reader ≠ .expression) :
    (call.script s).run (Call.answer s budget) = call.answer s (budget + 1) := by
  cases call with
  | binary => exact run_binary _ _
  | climb => exact run_climb _ _ _ _
  | operands => exact run_operands _ _ _ _
  | unary => exact run_unary _
  | primary => exact run_primary _
  | trailers => exact run_trailers _ _
  | arguments => exact run_arguments _ _ _
  | items => exact run_items _ _
  | expression => exact absurd rfl within
  | body => exact run_body _
  | block => exact run_block _ _
  | tag => exact run_tag _
  | tagRest => exact run_tagRest _ _ _ _
  | branches => exact run_branches _ _ _ _
  | customBranches => exact run_customBranches _ _ _ _

/-- Reading an expression in a template is reading one with the budget for the tokens to come. -/
theorem Call.run_expression (c : Cursor) :
    ((Call.expression c).script s).run (Call.answer s c.budget) = (Call.expression c).answer s budget :=
  Script.run_asked (Call.binary 0 c)

end

end Templating.Parse
