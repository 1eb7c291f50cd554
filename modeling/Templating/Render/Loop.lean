import Templating.Value.Basic

/-! # Loops

What a template sees of the loop it is in, under the name `loop`.
-/

namespace Templating

/-- The round of a loop. -/
structure LoopState where
  /-- The number of the round, counted from zero. -/
  index : Nat
  /-- The number of rounds. -/
  length : Nat
deriving Repr, DecidableEq, BEq, Inhabited

namespace LoopState

/-- The first round of a loop. -/
def start (length : Nat) : LoopState :=
  ⟨0, length⟩

/-- The next round. -/
def advance (state : LoopState) : LoopState :=
  ⟨state.index + 1, state.length⟩

/-- Whether this is the first round. -/
def isFirst (state : LoopState) : Bool :=
  state.index == 0

/-- Whether this is the last round. -/
def isLast (state : LoopState) : Bool :=
  state.index + 1 == state.length

/-- The round as a value. -/
def toValue (state : LoopState) : Value :=
  let left := state.length - (state.index + 1)
  .ofPairs [
    ("index", .ofNat (state.index + 1)),
    ("index0", .ofNat state.index),
    ("revindex", .ofNat (left + 1)),
    ("revindex0", .ofNat left),
    ("first", .bool state.isFirst),
    ("last", .bool state.isLast),
    ("length", .ofNat state.length)]

end LoopState

end Templating
