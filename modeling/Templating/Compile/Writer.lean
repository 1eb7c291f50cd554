import Templating.Code.Printer
import Templating.Compile.Statement

/-! # Writing templates line by line

The text of a module is written in one go over its tree: every tag puts its lines into the template that is open, those in
front of its ending and those of its ending. A nested template suspends the one around it, whose loops and branches are half
written at that point, and resumes it where it stood.
-/

namespace Templating.Compile

open Code (Buffer Edit Stmt Test)

/-- What has to be written behind the body of a loop. -/
structure LoopFrame where
  /-- The local of the round, if the loop keeps one. -/
  state : Option Nat
  /-- The local of the checkpoint, if the loop shares the scope around it. -/
  checkpoint : Option Nat
  /-- The local that says that there are no entries, if there is a branch for none. -/
  empty : Option Nat

/-- A template as far as it is written. -/
structure OpenUnit where
  /-- The name it is rendered by. -/
  name : String
  /-- The name of its type. -/
  typeName : String
  /-- Its text, with the level of the next line. -/
  buffer : Buffer := { level := Code.bodyLevel }
  /-- The loops that are open, the innermost first. -/
  loops : List LoopFrame := []

/-- A module as far as it is written. -/
structure Workbench where
  /-- The template that is open. -/
  current : OpenUnit
  /-- The templates around it, the innermost first. -/
  suspended : List OpenUnit := []
  /-- The nested templates that have ended, in that order. -/
  finished : List OpenUnit := []
  /-- The nested templates that have begun: the names of their types with their own names. -/
  typeNames : List (String × String) := []
  /-- The number of the next local. -/
  nextLocal : Nat := 0

/-- The line that opens a block. -/
def blockHead (head : String) : List Edit :=
  [.line (head ++ "\x7b"), .indent]

/-- The line that closes a block. -/
def blockEnd : List Edit :=
  [.outdent, .line "\x7d"]

/-- Takes steps of building text. -/
def OpenUnit.put (u : OpenUnit) (edits : List Edit) : OpenUnit :=
  { u with buffer := u.buffer.applyAll edits }

/-- The lines behind the body of a loop. -/
def LoopFrame.closing (frame : LoopFrame) : List Edit :=
  Stmt.allEdits (frame.state.toList.map .advance) ++ blockEnd
    ++ Stmt.allEdits [(frame.checkpoint.map .rollback).getD .popScope]

/-- What is left of a loop when its body begins. -/
def LoopPlan.frame (plan : LoopPlan) (l : LoopLocals) : LoopFrame where
  state := if plan.keepsState then some l.state else none
  checkpoint := if plan.sharesScope then some l.mark else none
  empty := if plan.hasElse then some l.empty else none

/-- The lines of a loop in front of its body. -/
def LoopPlan.front (plan : LoopPlan) (l : LoopLocals) (iterable : Code.Expr) : List Edit :=
  Stmt.allEdits
      (plan.opening l :: .holdEntries l.entries iterable
        :: if plan.hasElse then [.holdEmptiness l.empty l.entries] else [])
    ++ if plan.keepsState then
        Stmt.edits (.holdState l.state l.entries)
          ++ blockHead ("for (" ++ Code.localName l.key ++ ", " ++ Code.localName l.value ++ ") in "
            ++ Code.localName l.entries ++ " ")
          ++ Stmt.allEdits (plan.bindings l ++ [.assignState l.state])
      else
        Stmt.edits (.holdLength l.state l.entries)
          ++ blockHead ("for (" ++ Code.localName l.index ++ ", (" ++ Code.localName l.key ++ ", "
            ++ Code.localName l.value ++ ")) in " ++ Code.localName l.entries ++ ".into_iter().enumerate() ")
          ++ Stmt.allEdits (plan.bindings l ++ [.assignRound l.index l.state])

/-- The lines in front of the body of a branch; `opened` says whether there is a branch before it. -/
def branchHead (opened : Bool) (test : Test) : List Edit :=
  if opened then [.outdent, .line ("\x7d else if " ++ test.text ++ " \x7b"), .indent]
  else [.line ("if " ++ test.text ++ " \x7b"), .indent]

/-- The lines in front of the body of a last branch without a test. -/
def otherwiseHead (opened : Bool) : List Edit :=
  if opened then [.outdent, .line "\x7d else \x7b", .indent] else [.line "\x7b", .indent]

namespace Workbench

/-- Takes steps of building the text of the open template. -/
def put (w : Workbench) (edits : List Edit) : Workbench :=
  { w with current := w.current.put edits }

/-- Takes the next numbers for locals. -/
def reserve (w : Workbench) (count : Nat) : Workbench :=
  { w with nextLocal := w.nextLocal + count }

/-- Opens a loop of the open template. -/
def openLoop (w : Workbench) (plan : LoopPlan) (iterable : Code.Expr) : Workbench :=
  let l := plan.locals w.nextLocal
  let u := w.current.put (plan.front l iterable)
  { w with current := { u with loops := plan.frame l :: u.loops }, nextLocal := l.behind }

/-- Closes the innermost loop of the open template. What is written is what the loop left. -/
def closeLoop (w : Workbench) (line : Nat) : Except CompileError (LoopFrame × Workbench) :=
  match w.current.loops with
  | [] => .error (.layout .noOpenLoop line)
  | frame :: loops => .ok (frame, put { w with current := { w.current with loops := loops } } frame.closing)

/-- Begins a nested template. Its name and the name of its type must be new to the module. -/
def beginUnit (s : Setting) (name : String) (line : Nat) (w : Workbench) : Except CompileError Workbench :=
  let typeName := Code.nestedTypeName name
  let other := w.typeNames.lookup typeName
  if name = s.mainName ∨ other = some name then .error (.layout (.definedTwice name) line)
  else
    match other with
    | some other => .error ⟨.collision name other typeName, line⟩
    | none =>
      .ok { w with
        current := { name := name, typeName := typeName }
        suspended := w.current :: w.suspended
        typeNames := (typeName, name) :: w.typeNames }

/-- Ends the open template and resumes the one around it. -/
def endUnit (w : Workbench) (line : Nat) : Except CompileError Workbench :=
  match w.suspended with
  | [] => .error (.layout .noOpenTemplate line)
  | enclosing :: suspended =>
    .ok { w with current := enclosing, suspended := suspended, finished := w.finished ++ [w.current] }

end Workbench

/-- Writes an assignment. -/
def writeAssignment (s : Setting) (w : Workbench) (children : List Tree) (line : Nat) (notes : Annotations) :
    Except CompileError Workbench := do
  let child ← onlyChild "set" children line
  match notes.text? "name" with
  | none => .error (.layout .missingVariable line)
  | some name =>
    let value ← expression s.registries child
    return (w.put (Stmt.allEdits [.hold w.nextLocal value, .assign name w.nextLocal])).reserve 1

/-- Writes an inclusion. -/
def writeInclusion (s : Setting) (w : Workbench) (children : List Tree) (line : Nat) : Except CompileError Workbench := do
  let child ← onlyChild "include" children line
  let value ← expression s.registries child
  return (w.put (Stmt.allEdits [.hold w.nextLocal value, .include w.nextLocal])).reserve 1

mutual

/-- Writes a statement into the open template, a tag with its ending. -/
def write (s : Setting) (w : Workbench) : Tree → Except CompileError Workbench
  | .root children _ _ => writeAll s w children
  | .block children _ _ => writeAll s w children
  | .tag id children line notes =>
    match s.registries.tags.get? id with
    | none => .error (.layout (.unregistered "tag") line)
    | some definition =>
      match definition.form with
      | .print => do
        let written ← print s children line notes
        return w.put (Stmt.allEdits written)
      | .assignment => writeAssignment s w children line notes
      | .inclusion => writeInclusion s w children line
      | .conditional =>
        let count := pairedCount (notes.flag "has_else" false) children
        if count = 0 ∨ count % 2 = 1 then .error (.layout (.unpairedBranches count) line)
        else do
          let w ← writeBranches s .holds false w children
          return w.put blockEnd
      | .switch => do
        let w ← writeSwitch s w line (notes.flag "has_default" false) children
        -- Nothing is open behind a choice without branches.
        return if 1 < children.length then w.put blockEnd else w
      | .loop => do
        let plan ← loopPlan notes (!w.current.loops.isEmpty) children line
        let w ← writeLoop s w line plan children
        let (frame, w) ← w.closeLoop line
        match frame.empty with
        | none => return w
        | some empty => writeEmpty s w line empty children
      | .nested => writeNested s w line (notes.text? "name") children
      | .custom takesExpression => do
        let w ← writeCustom s (w.put (blockHead (definition.keyword ++ " "))) takesExpression children
        return w.put blockEnd
  | .missing id => .error (.layout (.missingNode id) 0)
  | .operator _ _ _ _ line _ => .error (.layout (.expressionAsStatement "operator") line)
  | .call _ _ _ line _ => .error (.layout (.expressionAsStatement "function") line)
  | .data _ line _ => .error (.layout (.expressionAsStatement "data") line)
  | .list _ line _ => .error (.layout (.expressionAsStatement "data") line)
  | .variable _ line _ => .error (.layout (.expressionAsStatement "variable") line)
  | .identifier _ line _ => .error (.layout (.expressionAsStatement "identifier") line)
  | .index _ _ line _ => .error (.layout (.expressionAsStatement "array index") line)

/-- Writes statements in order. -/
def writeAll (s : Setting) (w : Workbench) : List Tree → Except CompileError Workbench
  | [] => .ok w
  | child :: children => do
    let w ← write s w child
    writeAll s w children

/-- Writes pairs of a value and a body as branches; `opened` says whether a branch is open already. The last one stays
open. -/
def writeBranches (s : Setting) (test : Code.Expr → Test) (opened : Bool) (w : Workbench) :
    List Tree → Except CompileError Workbench
  | [] => .ok w
  | [last] => write s (w.put (otherwiseHead opened)) last
  | value :: content :: children => do
    let value ← expression s.registries value
    let w ← write s (w.put (branchHead opened (test value))) content
    writeBranches s test true w children

/-- Writes a choice by the value of its first child. -/
def writeSwitch (s : Setting) (w : Workbench) (line : Nat) (hasDefault : Bool) : List Tree → Except CompileError Workbench
  | [] => .error (.layout .missingSubject line)
  | subject :: cases =>
    let count := pairedCount hasDefault cases
    if count % 2 = 1 then .error (.layout (.unpairedCases count) line)
    else do
      let subject ← expression s.registries subject
      writeBranches s (.equals w.nextLocal) false
        ((w.put (Stmt.allEdits [.hold w.nextLocal subject])).reserve 1) cases

/-- Writes a loop with its container and its body. The loop stays open. -/
def writeLoop (s : Setting) (w : Workbench) (line : Nat) (plan : LoopPlan) : List Tree → Except CompileError Workbench
  | [iterable, content] => do
    let iterable ← expression s.registries iterable
    write s (w.openLoop plan iterable) content
  | [iterable, content, _] => do
    let iterable ← expression s.registries iterable
    write s (w.openLoop plan iterable) content
  | children => .error (.layout (.loopChildren children.length) line)

/-- Writes the branch of a loop for no entries. -/
def writeEmpty (s : Setting) (w : Workbench) (line : Nat) (empty : Nat) : List Tree → Except CompileError Workbench
  | _ :: _ :: last :: _ => do
    let w ← write s (w.put (blockHead ("if " ++ Code.localName empty ++ " "))) last
    return w.put blockEnd
  | _ => .error (.layout .missingElse line)

/-- Writes a nested template as one of its own. -/
def writeNested (s : Setting) (w : Workbench) (line : Nat) (name : Option String) :
    List Tree → Except CompileError Workbench
  | [content] =>
    match name with
    | none => .error (.layout .missingName line)
    | some name => do
      let w ← w.beginUnit s name line
      let w ← write s w content
      w.endUnit line
  | _ => .error (.layout .blockCount line)

/-- Writes the children of any other tag, the first of which may be an expression. -/
def writeCustom (s : Setting) (w : Workbench) (takesExpression : Bool) : List Tree → Except CompileError Workbench
  | [] => .ok w
  | first :: children =>
    if takesExpression then do
      let value ← expression s.registries first
      writeAll s (w.put (Stmt.allEdits [.evaluate value])) children
    else do
      let w ← write s w first
      writeAll s w children

end

namespace Workbench

/-- Nothing of a module is written yet. -/
def start (s : Setting) : Workbench where
  current := { name := s.mainName, typeName := "Template" }

/-- The text of a module that is written: its own template, then the nested ones. -/
def text (w : Workbench) (namespaceName : String) : String :=
  let units := w.current :: w.finished
  let edits := Code.moduleEdits namespaceName w.current.name
    (units.flatMap fun u => Code.templateEdits u.name u.typeName u.buffer.text) (units.map OpenUnit.typeName)
  (Buffer.applyAll {} edits).text

end Workbench

/-- Writes the tree of a template as the text of its module. -/
def moduleText (s : Setting) (namespaceName : String) (tree : Option Tree) : Except CompileError String :=
  match tree with
  | none => .error (.layout .noRoot 1)
  | some tree => do
    let w ← write s (.start s) tree
    return w.text namespaceName

end Templating.Compile
