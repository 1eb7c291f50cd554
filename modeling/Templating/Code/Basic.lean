import Templating.Value.Basic

/-! # Compiled templates

The fragment of Rust that templates compile to: expressions over the variables and the functions of the
environment, and statements that write output, change variables and hold intermediate results in
numbered locals. Templates have free names; their modules and types have identifiers made from them.
-/

namespace Templating.Code

/-- An expression of a compiled template. -/
inductive Expr where
  /-- A fixed value. -/
  | constant (value : Value)
  /-- A list of the values of expressions. -/
  | list (items : List Expr)
  /-- The value of a variable, null if it has none. -/
  | variable (name : String)
  /-- Whether a variable has a value. -/
  | bound (name : String)
  /-- An entry of a container. -/
  | index (base key : Expr)
  /-- An operation on one value. -/
  | unary (operation : String) (operand : Expr)
  /-- An operation on two values. -/
  | binary (operation : String) (left right : Expr)
  /-- Whether both hold; the right one is evaluated only if the left one holds. -/
  | both (left right : Expr)
  /-- Whether one holds; the right one is evaluated only if the left one does not hold. -/
  | either (left right : Expr)
  /-- Whether the operand does not hold. -/
  | negation (operand : Expr)
  /-- One of two expressions, chosen by a condition. -/
  | choice (condition accepted rejected : Expr)
  /-- A call of a function by its path. -/
  | callPath (path : String) (args : List Expr)
  /-- A call of a method of a named extension. -/
  | callExtension (extension method : String) (args : List Expr)
  /-- A call of what the host bound to a name. -/
  | callBinding (binding : String) (args : List Expr)
  /-- A call of a helper of the host, found by name when the template runs. -/
  | callHelper (name : String) (args : List Expr)
  /-- A call with a receiver, found by name when the template runs. -/
  | callMethod (receiver : Expr) (name : String) (args : List Expr)
deriving Repr, Inhabited

/-- A condition of a branch. -/
inductive Test where
  /-- The value of the expression holds. -/
  | holds (condition : Expr)
  /-- The value in a local is loosely equal to the value of the expression. -/
  | equals (subject : Nat) (candidate : Expr)
deriving Repr, Inhabited

mutual

/-- A statement of a compiled template. Locals are numbered. -/
inductive Stmt where
  /-- Writes a text. -/
  | writeText (text : String)
  /-- Writes a value with markup escaped. -/
  | writeEscaped (value : Expr)
  /-- Writes a value as it is. -/
  | writeValue (value : Expr)
  /-- Evaluates an expression for its failures. -/
  | evaluate (value : Expr)
  /-- Holds a value in a local. -/
  | hold (target : Nat) (value : Expr)
  /-- Gives a variable the value in a local. -/
  | assign (name : String) (source : Nat)
  /-- Takes a variable out of the innermost scope. -/
  | unassign (name : String)
  /-- Renders the template named by the value in a local. -/
  | include (source : Nat)
  /-- Opens a scope. -/
  | pushScope
  /-- Closes the innermost scope. -/
  | popScope
  /-- Opens a checkpoint and holds it in a local. -/
  | checkpoint (target : Nat)
  /-- Rolls back to the checkpoint in a local. -/
  | rollback (source : Nat)
  /-- Holds the entries of a value in a local. -/
  | holdEntries (target : Nat) (value : Expr)
  /-- Holds whether there are entries in a local. -/
  | holdEmptiness (target entries : Nat)
  /-- Holds the number of entries in a local. -/
  | holdLength (target entries : Nat)
  /-- Holds the first round of a loop over entries in a local. -/
  | holdState (target entries : Nat)
  /-- Moves the round in a local on by one. -/
  | advance (state : Nat)
  /-- Gives the variable `loop` the round in a local. -/
  | assignState (state : Nat)
  /-- Gives the variable `loop` the round made of the number and the count in two locals. -/
  | assignRound (index length : Nat)
  /-- Runs the body for each entry, with its key and value in locals. -/
  | each (key value entries : Nat) (body : List Stmt)
  /-- Runs the body for each entry, with its number, key and value in locals. -/
  | eachNumbered (index key value entries : Nat) (body : List Stmt)
  /-- Runs the body if the test passes, and the rest of the chain if not. -/
  | branch (test : Test) (body : List Stmt) (rest : Chain)
  /-- Runs the body if the flag in a local is set. -/
  | whenSet (flag : Nat) (body : List Stmt)
  /-- Runs the body. -/
  | block (body : List Stmt)
  /-- Runs the body under a word of an extension. -/
  | labelled (keyword : String) (body : List Stmt)
deriving Repr, Inhabited

/-- What follows the first branch of a chain of branches. -/
inductive Chain where
  /-- Nothing. -/
  | done
  /-- A body that runs when no test passes. -/
  | otherwise (body : List Stmt)
  /-- Another branch. -/
  | orElse (test : Test) (body : List Stmt) (rest : Chain)
deriving Repr, Inhabited

end

/-- One template of a compiled module. -/
structure Template where
  /-- The name it is rendered by. -/
  name : String
  /-- The name of its type. -/
  typeName : String
  /-- What it does. -/
  body : List Stmt
deriving Repr, Inhabited

/-- A compiled source: its own template, then the templates nested in it. -/
structure Module where
  /-- The template of the source. -/
  main : Template
  /-- The nested templates in the order in which they end. -/
  nested : List Template
deriving Repr, Inhabited

/-- A character of an identifier: ASCII letters in lower case and digits stay, all else becomes `_`. -/
def identifierChar (c : Char) : Char :=
  if c.isAlphanum then c.toLower else '_'

/-- The identifier made from a text. It is not empty and does not start with a digit. -/
def identifier (text : String) : String :=
  match text.toList.map identifierChar with
  | [] => "_"
  | first :: more => String.ofList (if first.isDigit then '_' :: first :: more else first :: more)

/-- The name of the module of a template. -/
def moduleName (namespaceName name : String) : String :=
  identifier namespaceName ++ "_" ++ identifier name

/-- The name of the type of a nested template. -/
def nestedTypeName (name : String) : String :=
  "Template_" ++ identifier name

end Templating.Code
