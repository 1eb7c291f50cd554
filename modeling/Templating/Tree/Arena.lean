import Templating.Tree.Basic

/-! # Arenas

The nodes of a template in one sequence, linked by their numbers. A tree is laid out children first, so
every node stands behind its children and the root stands last. Passes annotate the nodes of an arena.
-/

namespace Templating

/-- A node whose children are named by their numbers. -/
inductive NodeKind where
  /-- The whole template. -/
  | root (children : List NodeId)
  /-- The body of a block. -/
  | block (children : List NodeId)
  /-- A tag. -/
  | tag (tag : Nat) (children : List NodeId)
  /-- An operator with its operands. -/
  | operator (operator : Nat) (left middle right : Option NodeId)
  /-- A call. -/
  | call (callee : Callee) (receiver : Option NodeId) (args : List NodeId)
  /-- A written value. -/
  | data (value : Scalar)
  /-- A written list. -/
  | list (items : List NodeId)
  /-- The value of a variable. -/
  | variable (name : String)
  /-- A bare name. -/
  | identifier (name : String)
  /-- An entry of a container. -/
  | index (base key : NodeId)
deriving Repr, Inhabited

/-- A node of an arena. -/
structure Node where
  /-- What it is. -/
  kind : NodeKind
  /-- Its line. -/
  line : Nat
  /-- Its annotations. -/
  notes : Annotations := {}
deriving Repr, Inhabited

/-- The nodes of a template in one sequence. -/
structure Arena where
  /-- The nodes; a node's number is its place. -/
  nodes : Array Node := #[]
  /-- The number of the root. -/
  root : Option NodeId := none
deriving Repr, Inhabited

namespace NodeKind

/-- What kind of node a node is. -/
def name : NodeKind → String
  | .root _ => "root"
  | .block _ => "block"
  | .tag _ _ => "tag"
  | .operator .. => "operator"
  | .call .. => "function"
  | .data _ => "data"
  | .list _ => "data"
  | .variable _ => "variable"
  | .identifier _ => "identifier"
  | .index _ _ => "array index"

/-- Whether a node is a tag. -/
def isTag : NodeKind → Bool
  | .tag _ _ => true
  | _ => false

/-- The children of a node in the order of the source. -/
def children : NodeKind → List NodeId
  | .root children => children
  | .block children => children
  | .tag _ children => children
  | .operator _ left middle right => left.toList ++ middle.toList ++ right.toList
  | .call _ receiver args => receiver.toList ++ args
  | .data _ => []
  | .list items => items
  | .variable _ => []
  | .identifier _ => []
  | .index base key => [base, key]

end NodeKind

namespace Arena

/-- The node with a number. -/
def get? (arena : Arena) (id : NodeId) : Option Node :=
  arena.nodes[id.index]?

/-- How many nodes there are. -/
def size (arena : Arena) : Nat :=
  arena.nodes.size

/-- The children of the node with a number. -/
def children (arena : Arena) (id : NodeId) : List NodeId :=
  match arena.get? id with
  | some node => node.kind.children
  | none => []

/-- Adds a node; its number is the size of the arena so far. -/
def push (arena : Arena) (kind : NodeKind) (line : Nat) (notes : Annotations) : NodeId × Arena :=
  (⟨arena.size⟩, { arena with nodes := arena.nodes.push ⟨kind, line, notes⟩ })

/-- Changes the annotations of a node. -/
def annotate (arena : Arena) (id : NodeId) (change : Annotations → Annotations) : Arena :=
  { arena with nodes := arena.nodes.modify id.index fun node => { node with notes := change node.notes } }

mutual

/-- Adds a tree, children first. -/
def add (arena : Arena) : Tree → NodeId × Arena
  | .root children line notes =>
    let (ids, arena) := addAll arena children
    arena.push (.root ids) line notes
  | .block children line notes =>
    let (ids, arena) := addAll arena children
    arena.push (.block ids) line notes
  | .tag tag children line notes =>
    let (ids, arena) := addAll arena children
    arena.push (.tag tag ids) line notes
  | .operator operator left middle right line notes =>
    let (left, arena) := addOption arena left
    let (middle, arena) := addOption arena middle
    let (right, arena) := addOption arena right
    arena.push (.operator operator left middle right) line notes
  | .call callee receiver args line notes =>
    let (receiver, arena) := addOption arena receiver
    let (ids, arena) := addAll arena args
    arena.push (.call callee receiver ids) line notes
  | .data value line notes => arena.push (.data value) line notes
  | .list items line notes =>
    let (ids, arena) := addAll arena items
    arena.push (.list ids) line notes
  | .variable name line notes => arena.push (.variable name) line notes
  | .identifier name line notes => arena.push (.identifier name) line notes
  | .index base key line notes =>
    let (base, arena) := add arena base
    let (key, arena) := add arena key
    arena.push (.index base key) line notes
  | .missing id => (id, arena)

/-- Adds several trees in order. -/
def addAll (arena : Arena) : List Tree → List NodeId × Arena
  | [] => ([], arena)
  | tree :: rest =>
    let (id, arena) := add arena tree
    let (ids, arena) := addAll arena rest
    (id :: ids, arena)

/-- Adds a tree if there is one. -/
def addOption (arena : Arena) : Option Tree → Option NodeId × Arena
  | none => (none, arena)
  | some tree =>
    let (id, arena) := add arena tree
    (some id, arena)

end

/-- The arena of a tree. -/
def ofTree (tree : Tree) : Arena :=
  let (id, arena) := add {} tree
  { arena with root := some id }

/-- The tree below a node, followed down to `depth` levels. A reference beyond them is to no node; an arena
without cycles has no more levels than nodes. -/
def treeAt (arena : Arena) (depth : Nat) (id : NodeId) : Tree :=
  match depth with
  | 0 => .missing id
  | depth + 1 =>
    match arena.get? id with
    | none => .missing id
    | some node =>
      match node.kind with
      | .root children => .root (children.map (arena.treeAt depth)) node.line node.notes
      | .block children => .block (children.map (arena.treeAt depth)) node.line node.notes
      | .tag tag children => .tag tag (children.map (arena.treeAt depth)) node.line node.notes
      | .operator operator left middle right =>
        .operator operator (left.map (arena.treeAt depth)) (middle.map (arena.treeAt depth))
          (right.map (arena.treeAt depth)) node.line node.notes
      | .call callee receiver args =>
        .call callee (receiver.map (arena.treeAt depth)) (args.map (arena.treeAt depth)) node.line node.notes
      | .data value => .data value node.line node.notes
      | .list items => .list (items.map (arena.treeAt depth)) node.line node.notes
      | .variable name => .variable name node.line node.notes
      | .identifier name => .identifier name node.line node.notes
      | .index base key =>
        .index (arena.treeAt depth base) (arena.treeAt depth key) node.line node.notes

/-- The tree of an arena with a root. -/
def toTree? (arena : Arena) : Option Tree :=
  arena.root.map (arena.treeAt arena.size)

/-- Whether some node strictly below a node, down to `depth` levels, has a property. -/
def anyBelow (arena : Arena) (property : Node → Bool) (depth : Nat) (id : NodeId) : Bool :=
  match depth with
  | 0 => false
  | depth + 1 =>
    (arena.children id).any fun child =>
      (arena.get? child).any property || arena.anyBelow property depth child

/-- Whether some node strictly below a node has a property. -/
def anyDescendant (arena : Arena) (property : Node → Bool) (id : NodeId) : Bool :=
  arena.anyBelow property arena.size id

end Arena

end Templating
