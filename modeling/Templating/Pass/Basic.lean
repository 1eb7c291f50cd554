import Templating.Registry.Basic
import Templating.Tree.Arena

/-! # Passes

Passes annotate the nodes of a template between reading and compiling. All of them share one walk through
the tree: at a node every pass runs before the children are walked, and once more behind them. Passes
change annotations only, so the walk does not depend on them.
-/

namespace Templating

/-- A moment of a walk: a node is entered or left. -/
structure Visit where
  /-- Whether the node is entered, and not left. -/
  isEntry : Bool
  /-- The node. -/
  node : NodeId
  /-- The nodes above it, the nearest first. -/
  ancestors : List NodeId
deriving Repr, DecidableEq, BEq

/-- What a pass makes of the annotations of a visited node. -/
abbrev Annotator := Registries → Arena → Visit → Annotations → Annotations

/-- A pass. -/
structure Pass where
  /-- Its name. -/
  name : String
  /-- Passes with lower priority run first. -/
  priority : Int
  /-- What it does when a node is entered. -/
  enter : Annotator := fun _ _ _ notes => notes
  /-- What it does when a node is left. -/
  leave : Annotator := fun _ _ _ notes => notes
  /-- Whether its visits are reported. -/
  isReported : Bool := false

/-- A pass at a visit. -/
def Pass.run (pass : Pass) (r : Registries) (visit : Visit) (arena : Arena) : Arena :=
  let annotate := if visit.isEntry then pass.enter else pass.leave
  arena.annotate visit.node (annotate r arena visit)

namespace Arena

/-- The visits of a walk from a node down to `depth` levels. -/
def walkFrom (arena : Arena) (depth : Nat) (ancestors : List NodeId) (id : NodeId) : List Visit :=
  match depth with
  | 0 => []
  | depth + 1 =>
    ⟨true, id, ancestors⟩
      :: ((arena.children id).flatMap (arena.walkFrom depth (id :: ancestors)) ++ [⟨false, id, ancestors⟩])

/-- The visits of a walk from the root. A root that is no node is visited too. -/
def walk (arena : Arena) : List Visit :=
  match arena.root with
  | some root => arena.walkFrom (arena.size + 1) [] root
  | none => []

end Arena

/-- Passes in the order in which they run. -/
structure Optimizer where
  /-- The passes. -/
  passes : List Pass := []

namespace Optimizer

/-- Adds a pass behind those that do not run later. -/
def add (optimizer : Optimizer) (pass : Pass) : Optimizer :=
  let runsBefore (other : Pass) : Bool := decide (other.priority ≤ pass.priority)
  ⟨optimizer.passes.takeWhile runsBefore ++ pass :: optimizer.passes.dropWhile runsBefore⟩

/-- The calls of passes in order: at each visit every pass in turn. -/
def calls (optimizer : Optimizer) (arena : Arena) : List (Pass × Visit) :=
  arena.walk.flatMap fun visit => optimizer.passes.map fun pass => (pass, visit)

/-- Runs the passes over an arena. -/
def run (optimizer : Optimizer) (r : Registries) (arena : Arena) : Arena :=
  (optimizer.calls arena).foldl (fun arena call => call.1.run r call.2 arena) arena

end Optimizer

/-- What a visited node is called in reports: the keyword of a tag, else its kind. -/
def Arena.reportName (arena : Arena) (r : Registries) (id : NodeId) : String :=
  match (arena.get? id).map Node.kind with
  | some (.tag tag _) => ((r.tags.get? tag).map (·.keyword)).getD ""
  | some kind => kind.name
  | none => ""

/-- The reports of the passes whose visits are reported. -/
def Optimizer.reports (optimizer : Optimizer) (r : Registries) (arena : Arena) : List String :=
  ((optimizer.calls arena).filter (·.1.isReported)).map fun call =>
    call.1.name ++ (if call.2.isEntry then " enter " else " leave ") ++ arena.reportName r call.2.node
      ++ " " ++ toString call.2.ancestors.length

end Templating
