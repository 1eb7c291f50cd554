import Templating.Tree.Annotations

/-! # Template trees

What a template means before it is compiled: text, outputs and tags in order, with the expressions inside
them. Operators, tags and known functions are named by their numbers in the registries. A tree may hold
references to nodes that do not exist, which compiling refuses.
-/

namespace Templating

/-- The number of a node; the highest number of 32 bits stands for no node. -/
structure NodeId where
  /-- The number. -/
  index : Nat
deriving Repr, DecidableEq, BEq, Inhabited

namespace NodeId

/-- The number that stands for no node. -/
def invalid : NodeId :=
  ⟨Nat.pow 2 32 - 1⟩

/-- A node's number in messages. -/
def describe (id : NodeId) : String :=
  if id = invalid then "NodeId::INVALID" else "NodeId(" ++ toString id.index ++ ")"

end NodeId

/-- An operand's place. -/
inductive Slot where
  /-- In front of the operator. -/
  | left
  /-- Between the two signs of the operator. -/
  | middle
  /-- Behind the operator. -/
  | right
deriving Repr, DecidableEq, BEq

/-- The name of a slot. -/
def Slot.name : Slot → String
  | left => "left"
  | middle => "middle"
  | right => "right"

/-- What a call calls. -/
inductive Callee where
  /-- A registered function. -/
  | resolved (function : Nat)
  /-- A name that is looked up when the template runs. -/
  | named (name : String)
deriving Repr, DecidableEq, BEq

/-- A value written in a template. -/
inductive Scalar where
  /-- Nothing. -/
  | null
  /-- A truth value. -/
  | bool (b : Bool)
  /-- A whole number. -/
  | int (n : Int64)
  /-- A floating-point number. -/
  | float (x : Float)
  /-- A text. -/
  | string (s : String)
deriving Repr, Inhabited

/-- The written value that stands for a value, if it is neither a list nor a map. -/
def Value.toScalar? : Value → Option Scalar
  | .null => some .null
  | .bool b => some (.bool b)
  | .int n => some (.int n)
  | .float x => some (.float x)
  | .string s => some (.string s)
  | .list _ => none
  | .map _ => none

/-- A written value in a tree dump. -/
def Scalar.dump : Scalar → String
  | null => "null"
  | bool b => if b then "true" else "false"
  | int n => toString n.toInt
  | float x => Number.Layout.literal.write x
  | string s => Text.quote s

/-- A node with the nodes below it. Every node has a line and annotations. -/
inductive Tree where
  /-- The whole template. -/
  | root (children : List Tree) (line : Nat) (notes : Annotations)
  /-- The body of a block. -/
  | block (children : List Tree) (line : Nat) (notes : Annotations)
  /-- A tag; what its children are is the tag's own business. -/
  | tag (tag : Nat) (children : List Tree) (line : Nat) (notes : Annotations)
  /-- An operator with its operands. -/
  | operator (operator : Nat) (left middle right : Option Tree) (line : Nat) (notes : Annotations)
  /-- A call. -/
  | call (callee : Callee) (receiver : Option Tree) (args : List Tree) (line : Nat) (notes : Annotations)
  /-- A written value. -/
  | data (value : Scalar) (line : Nat) (notes : Annotations)
  /-- A written list. -/
  | list (items : List Tree) (line : Nat) (notes : Annotations)
  /-- The value of a variable. -/
  | variable (name : String) (line : Nat) (notes : Annotations)
  /-- A bare name. -/
  | identifier (name : String) (line : Nat) (notes : Annotations)
  /-- An entry of a container. -/
  | index (base key : Tree) (line : Nat) (notes : Annotations)
  /-- A reference to a node that does not exist. -/
  | missing (id : NodeId)
deriving Repr, Inhabited

namespace Tree

/-- What kind of node a node is. -/
def kindName : Tree → String
  | .root .. => "root"
  | .block .. => "block"
  | .tag .. => "tag"
  | .operator .. => "operator"
  | .call .. => "function"
  | .data .. => "data"
  | .list .. => "data"
  | .variable .. => "variable"
  | .identifier .. => "identifier"
  | .index .. => "array index"
  | .missing _ => "missing"

/-- The line of a node. -/
def line : Tree → Nat
  | .root _ line _ => line
  | .block _ line _ => line
  | .tag _ _ line _ => line
  | .operator _ _ _ _ line _ => line
  | .call _ _ _ line _ => line
  | .data _ line _ => line
  | .list _ line _ => line
  | .variable _ line _ => line
  | .identifier _ line _ => line
  | .index _ _ line _ => line
  | .missing _ => 0

end Tree

end Templating
