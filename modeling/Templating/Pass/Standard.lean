import Templating.Pass.Basic

/-! # The standard passes

The loop-context pass notes on every repeating tag what the loop needs: `needs_temp` if a loop of the same
tag lies inside it, and `reuse_context` if one lies around it in the same template. The output-safety pass
notes on every tag that prints whether its value may be written as it is: `safe` for the text of the
template and for direct calls of functions that are registered as safe.
-/

namespace Templating.LoopContext

/-- Whether a node is a tag with this number. -/
def isTag (tag : Nat) (node : Node) : Bool :=
  match node.kind with
  | .tag other _ => other == tag
  | _ => false

/-- Whether a tag with this number is the first met of it and the tags that open a template, going
outward. -/
def isInside (r : Registries) (arena : Arena) (tag : Nat) : List NodeId → Bool
  | [] => false
  | ancestor :: outer =>
    match (arena.get? ancestor).map Node.kind with
    | some (.tag other _) =>
      if other = tag then true
      else if (r.tags.get? other).any (·.opensUnit) then false
      else isInside r arena tag outer
    | _ => isInside r arena tag outer

/-- What the pass notes when a node is entered. -/
def enter : Annotator := fun r arena visit notes =>
  match (arena.get? visit.node).map Node.kind with
  | some (.tag tag _) =>
    if (r.tags.get? tag).any (·.isRepeating) then
      (notes.set "needs_temp" (.bool (arena.anyDescendant (isTag tag) visit.node))).set
        "reuse_context" (.bool (isInside r arena tag visit.ancestors))
    else notes
  | _ => notes

/-- The pass. -/
def pass : Pass where
  name := "loop-context"
  priority := 0
  enter := enter

end Templating.LoopContext

namespace Templating.OutputSafety

/-- Whether a node is a direct call of a safe function. -/
def isSafeCall (r : Registries) (node : Node) : Bool :=
  match node.kind with
  | .call (.resolved id) none _ => (r.functions.get? id).any (·.isSafe)
  | _ => false

/-- What the pass notes when a node is entered. -/
def enter : Annotator := fun r arena visit notes =>
  match (arena.get? visit.node).map Node.kind with
  | some (.tag tag children) =>
    if (r.tags.get? tag).any (·.keyword == printKeyword) then
      let safe := notes.flag "text" false || ((children.head?.bind arena.get?).any (isSafeCall r))
      notes.set "safe" (.bool safe)
    else notes
  | _ => notes

/-- The pass. -/
def pass : Pass where
  name := "output-safety"
  priority := 10
  enter := enter

end Templating.OutputSafety

namespace Templating.Optimizer

/-- The passes that every template goes through. -/
def standard : Optimizer :=
  (add {} LoopContext.pass).add OutputSafety.pass

end Templating.Optimizer
