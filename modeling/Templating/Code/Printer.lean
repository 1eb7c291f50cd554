import Templating.Code.Basic
import Templating.Code.Buffer
import Templating.Code.Literal

/-! # Compiled templates as text

The Rust text of compiled templates. A statement becomes steps of building text, so that its lines stand at
the level of the block around it.
-/

namespace Templating.Code

/-- The name of a numbered local. -/
def localName (n : Nat) : String :=
  "_tmp" ++ toString n

/-- The arguments of a call. -/
def argumentText (args : List String) : String :=
  "&[" ++ commaSeparated args ++ "]"

/-- Whether the value of an expression holds. -/
def truthText (text : String) : String :=
  "(" ++ text ++ ").is_truthy()"

mutual

/-- The text of an expression. -/
def Expr.text : Expr → String
  | .constant value => valueLiteral "Value" value
  | .list items => listLiteral "Value" (Expr.texts items)
  | .variable name => "__ctx.get(" ++ Text.quote name ++ ")"
  | .bound name => "Value::Bool(__ctx.contains(" ++ Text.quote name ++ "))"
  | .index base key => "ops::index(&" ++ base.text ++ ", &" ++ key.text ++ ")?"
  | .unary operation operand => "ops::" ++ operation ++ "(&" ++ operand.text ++ ")?"
  | .binary operation left right =>
    "ops::" ++ operation ++ "(&" ++ left.text ++ ", &" ++ right.text ++ ")?"
  | .both left right => "Value::Bool(" ++ truthText left.text ++ " && " ++ truthText right.text ++ ")"
  | .either left right => "Value::Bool(" ++ truthText left.text ++ " || " ++ truthText right.text ++ ")"
  | .negation operand => "Value::Bool(!" ++ truthText operand.text ++ ")"
  | .choice condition accepted rejected =>
    "(if " ++ truthText condition.text ++ " \x7b " ++ accepted.text ++ " \x7d else \x7b " ++ rejected.text
      ++ " \x7d)"
  | .callPath path args => path ++ "(" ++ argumentText (Expr.texts args) ++ ")?"
  | .callExtension extension method args =>
    "__env.extension(" ++ Text.quote extension ++ ")?.call(" ++ Text.quote method ++ ", "
      ++ argumentText (Expr.texts args) ++ ")?"
  | .callBinding binding args =>
    "__env.invoke_callback(" ++ Text.quote binding ++ ", " ++ argumentText (Expr.texts args) ++ ")?"
  | .callHelper name args =>
    "self.call_helper(__env, " ++ Text.quote name ++ ", " ++ argumentText (Expr.texts args) ++ ")?"
  | .callMethod receiver name args =>
    "__env.call_method(&" ++ receiver.text ++ ", " ++ Text.quote name ++ ", "
      ++ argumentText (Expr.texts args) ++ ")?"

/-- The texts of expressions. -/
def Expr.texts : List Expr → List String
  | [] => []
  | item :: items => item.text :: Expr.texts items

end

/-- The text of a test. -/
def Test.text : Test → String
  | .holds condition => truthText condition.text
  | .equals subject candidate =>
    "ops::matches_case(&" ++ localName subject ++ ", &" ++ candidate.text ++ ")"

/-- A line that opens a block, the steps inside, and the line that closes it. -/
def braced (head : String) (inside : List Edit) : List Edit :=
  .line (head ++ "\x7b") :: .indent :: inside ++ [.outdent, .line "\x7d"]

/-- A line that gives a local its content. -/
def binding (n : Nat) (content : String) : Edit :=
  .line ("let " ++ localName n ++ " = " ++ content ++ ";")

/-- A line that gives a variable its value. -/
def assignment (name content : String) : Edit :=
  .line ("__ctx.set(" ++ Text.quote name ++ ", " ++ content ++ ");")

mutual

/-- The steps that write a statement. -/
def Stmt.edits : Stmt → List Edit
  | .writeText text => [.line ("__out.write_str(" ++ Text.quote text ++ ");")]
  | .writeEscaped value => [.line ("__out.write_escaped(&" ++ value.text ++ ");")]
  | .writeValue value => [.line ("__out.write_value(&" ++ value.text ++ ");")]
  | .evaluate value => [.line (value.text ++ ";")]
  | .hold target value => [binding target value.text]
  | .assign name source => [assignment name (localName source)]
  | .unassign name => [.line ("__ctx.remove(" ++ Text.quote name ++ ");")]
  | .include source => [.line ("__env.include(&" ++ localName source ++ ", __ctx, __out)?;")]
  | .pushScope => [.line "__ctx.push_scope();"]
  | .popScope => [.line "__ctx.pop_scope();"]
  | .checkpoint target => [binding target "__ctx.checkpoint()"]
  | .rollback source => [.line ("__ctx.rollback(" ++ localName source ++ ");")]
  | .holdEntries target value => [binding target ("(" ++ value.text ++ ").iter_entries()?")]
  | .holdEmptiness target entries => [binding target (localName entries ++ ".is_empty()")]
  | .holdLength target entries => [binding target (localName entries ++ ".len()")]
  | .holdState target entries =>
    [.line ("let mut " ++ localName target ++ " = LoopState::new(" ++ localName entries ++ ".len());")]
  | .advance state => [.line (localName state ++ ".advance();")]
  | .assignState state => [assignment "loop" (localName state ++ ".to_value()")]
  | .assignRound index length =>
    [assignment "loop" ("LoopState::at(" ++ localName index ++ ", " ++ localName length ++ ").to_value()")]
  | .each key value entries body =>
    braced ("for (" ++ localName key ++ ", " ++ localName value ++ ") in " ++ localName entries ++ " ")
      (Stmt.allEdits body)
  | .eachNumbered index key value entries body =>
    braced
      ("for (" ++ localName index ++ ", (" ++ localName key ++ ", " ++ localName value ++ ")) in "
        ++ localName entries ++ ".into_iter().enumerate() ")
      (Stmt.allEdits body)
  | .branch test body rest =>
    .line ("if " ++ test.text ++ " \x7b") :: .indent :: Stmt.allEdits body ++ rest.edits
  | .whenSet flag body => braced ("if " ++ localName flag ++ " ") (Stmt.allEdits body)
  | .block body => braced "" (Stmt.allEdits body)
  | .labelled keyword body => braced (keyword ++ " ") (Stmt.allEdits body)

/-- The steps that write statements. -/
def Stmt.allEdits : List Stmt → List Edit
  | [] => []
  | statement :: rest => statement.edits ++ Stmt.allEdits rest

/-- The steps that write the rest of a chain of branches, behind the body of the branch before it. -/
def Chain.edits : Chain → List Edit
  | .done => [.outdent, .line "\x7d"]
  | .otherwise body =>
    .outdent :: .line "\x7d else \x7b" :: .indent :: Stmt.allEdits body ++ [.outdent, .line "\x7d"]
  | .orElse test body rest =>
    .outdent :: .line ("\x7d else if " ++ test.text ++ " \x7b") :: .indent :: Stmt.allEdits body
      ++ rest.edits

end

/-- The level of the statements of a template: in a module, in an implementation, in a function. -/
def bodyLevel : Nat := 3

/-- The text of the statements of a template. -/
def Template.bodyText (template : Template) : String :=
  (Buffer.applyAll { level := bodyLevel } (Stmt.allEdits template.body)).text

/-- The steps that write a template around the text of its statements. -/
def templateEdits (name typeName body : String) : List Edit :=
  [.blank, .line ("pub struct " ++ typeName ++ ";"), .blank]
    ++ braced ("impl Renderable for " ++ typeName ++ " ")
      (braced "fn name(&self) -> &str " [.line (Text.quote name)]
        ++ [.blank,
          .line ("fn render(&self, __env: &Environment, __ctx: &mut Context, __out: &mut Output)"
            ++ " -> RenderResult<()> \x7b"),
          .raw body, .indent, .line "Ok(())", .outdent, .line "\x7d"])

/-- The steps that write a template. -/
def Template.edits (template : Template) : List Edit :=
  templateEdits template.name template.typeName template.bodyText

/-- The templates of a module: its own, then the nested ones. -/
def Module.templates (compiled : Module) : List Template :=
  compiled.main :: compiled.nested

/-- The steps that write a module of templates with these types around the steps that write them. -/
def moduleEdits (namespaceName mainName : String) (templates : List Edit) (typeNames : List String) : List Edit :=
  .line ("#[allow(unused_mut, unused_variables, unused_imports, unused_parens, "
      ++ "non_camel_case_types, clippy::all)]")
    :: braced ("pub mod " ++ moduleName namespaceName mainName ++ " ")
      (.line "use ::stencil_runtime::prelude::*;" :: templates
        ++ .blank :: braced "pub fn templates() -> Vec<Box<dyn Renderable>> "
          [.line ("vec![" ++ commaSeparated (typeNames.map fun typeName => "Box::new(" ++ typeName ++ ")") ++ "]")])

/-- The steps that write a module. -/
def Module.edits (namespaceName : String) (compiled : Module) : List Edit :=
  moduleEdits namespaceName compiled.main.name (compiled.templates.flatMap Template.edits)
    (compiled.templates.map Template.typeName)

/-- The text of a module. -/
def Module.text (namespaceName : String) (compiled : Module) : String :=
  (Buffer.applyAll {} (compiled.edits namespaceName)).text

end Templating.Code
