import Templating.Registry.Basic
import Templating.Tree.Arena

/-! # Tree dumps

A tree as text, one node a line, children two places further in than their parent.
-/

namespace Templating

namespace NodeKind

/-- What the line of a node says about it. -/
def summary (r : Registries) : NodeKind → String
  | .root _ => "root"
  | .block _ => "block"
  | .tag id _ => "tag " ++ ((r.tags.get? id).map (·.keyword)).getD ""
  | .operator id _ _ _ =>
    "operator " ++ ((r.operators.get? id).map fun d => d.aliases.headD d.name).getD ""
  | .call callee receiver _ =>
    let name :=
      match callee with
      | .resolved id => ((r.functions.get? id).map (·.name)).getD ""
      | .named name => name
    (if receiver.isSome then "method " else "call ") ++ name
  | .data value => "data " ++ value.dump
  | .list _ => "data list"
  | .variable name => "variable " ++ name
  | .identifier name => "identifier " ++ name
  | .index _ _ => "index"

end NodeKind

/-- The line of a node. Every node but a root is followed by its line number. -/
def Node.dump (r : Registries) (node : Node) : String :=
  node.kind.summary r ++ node.notes.dump
    ++ (match node.kind with
      | .root _ => ""
      | _ => " @" ++ toString node.line)

namespace Arena

/-- The lines of the tree below a node, followed down to `depth` levels. A node that does not exist has no
line. -/
def dumpAt (r : Registries) (arena : Arena) (indent : Nat) (depth : Nat) (id : NodeId) : List String :=
  match depth with
  | 0 => []
  | depth + 1 =>
    match arena.get? id with
    | none => []
    | some node =>
      ("".pushn ' ' (2 * indent) ++ node.dump r ++ "\n")
        :: node.kind.children.flatMap (arena.dumpAt r (indent + 1) depth)

/-- The dump of an arena; nothing if it has no root. -/
def dump (r : Registries) (arena : Arena) : String :=
  match arena.root with
  | some root => String.join (arena.dumpAt r 0 arena.size root)
  | none => ""

end Arena

end Templating
