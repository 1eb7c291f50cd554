import Templating.Value.Operators
import Templating.Text.Casing

/-! # Functions on values

The functions that every template can call by name, and the two that belong to the extension `core`.
-/

namespace Templating

/-- A function that every template can call by name. -/
inductive Builtin where
  /-- The number of items or characters. -/
  | length
  /-- Upper case. -/
  | upper
  /-- Lower case. -/
  | lower
  /-- The texts of the items of a list, with a separator between them. -/
  | join
  /-- The numbers from a start to an end, with a step. -/
  | range
  /-- The argument itself. -/
  | raw
  /-- The distance from zero. -/
  | abs
deriving Repr, DecidableEq, BEq

/-- A method of the extension `core`. -/
inductive CoreMethod where
  /-- Replaces a piece of text. -/
  | replace
  /-- Parts a text at a separator. -/
  | split
deriving Repr, DecidableEq, BEq

/-- The argument at a position, null if there is none. -/
def argument (args : List Value) (position : Nat) : Value :=
  args.getD position .null

/-- The text of the argument at a position, which is no container. -/
def textArgument (function : String) (args : List Value) (position : Nat) : Except Failure String :=
  match argument args position with
  | .list _ | .map _ => .error (.invalidArgument function (.notScalar (position + 1)))
  | v => .ok v.display

/-- The whole number at a position of the arguments. -/
def intArgument (function : String) (args : List Value) (position : Nat) : Except Failure Int64 :=
  match (argument args position).toInt? with
  | some n => .ok n
  | none => .error (.invalidArgument function (.notInt (position + 1)))

namespace Builtin

/-- All of them, in the order of their names' first use in the documentation. -/
def all : List Builtin :=
  [length, upper, lower, join, range, raw, abs]

/-- The name a template calls it by. -/
def name : Builtin → String
  | length => "length"
  | upper => "upper"
  | lower => "lower"
  | join => "join"
  | range => "range"
  | raw => "raw"
  | abs => "abs"

/-- The function with a name. -/
def find? (name : String) : Option Builtin :=
  all.find? fun f => f.name == name

/-- The number of items of a container, or of characters of the text of anything else. -/
def lengthOf : Value → Nat
  | .null => 0
  | .string s => s.length
  | .list items => items.length
  | .map entries => entries.length
  | other => other.display.length

/-- Whether a sequence that goes in steps of `step` has not gone past `stop` at `current`. -/
def reaches (stop step current : Int64) : Bool :=
  decide (0 < step ∧ current ≤ stop ∨ step < 0 ∧ stop ≤ current)

/-- The numbers from `current` to `stop` in steps of `step`, behind the `earlier` ones, of which the last
stands first. A step that would leave the range of 64 bits is the end of them. -/
def stepped (stop step current : Int64) (earlier : List Int64) : List Int64 :=
  if _ahead : reaches stop step current then
    match _added : Number.sum? current step with
    | some next => stepped stop step next (current :: earlier)
    | none => (current :: earlier).reverse
  else earlier.reverse
termination_by ((stop.toInt - current.toInt) * step.toInt.sign + 1).toNat
decreasing_by
  have sum : _ = current.toInt + step.toInt := Number.toInt_of_narrow? _added
  simp only [reaches, decide_eq_true_iff, Int64.lt_iff_toInt_lt, Int64.le_iff_toInt_le,
    Int64.toInt_zero] at _ahead
  rcases _ahead with ⟨upward, below⟩ | ⟨downward, above⟩
  · rw [Int.sign_eq_one_of_pos upward]
    omega
  · rw [Int.sign_eq_neg_one_of_neg downward]
    omega

/-- Calls a function. -/
def call (f : Builtin) (args : List Value) : Except Failure Value :=
  match f with
  | length => .ok (.ofNat (lengthOf (argument args 0)))
  | upper => (textArgument "upper" args 0).map fun s => .string (Text.upper s)
  | lower => (textArgument "lower" args 0).map fun s => .string (Text.lower s)
  | join => do
    let separator ← textArgument "join" args 1
    match argument args 0 with
    | .list items => return .string (String.intercalate separator (items.map Value.display))
    | .null => return .string ""
    | other => .error (.invalidArgument "join" (.expected "list" other.kind))
  | range => do
    let start ← intArgument "range" args 0
    let stop ← intArgument "range" args 1
    let step ← if 2 < args.length then intArgument "range" args 2 else .ok 1
    if step = 0 then .error (.invalidArgument "range" .zeroStep)
    else return .list ((stepped stop step start []).map Value.int)
  | raw => .ok (argument args 0)
  | abs =>
    match argument args 0 with
    | .int n =>
      match Number.magnitude? n with
      | some m => .ok (.int m)
      | none => .error (.overflow "abs")
    | .float x => .ok (.float x.abs)
    | other => .error (.invalidArgument "abs" (.expected "number" other.kind))

end Builtin

namespace CoreMethod

/-- Both of them. -/
def all : List CoreMethod :=
  [replace, split]

/-- The name a template calls it by. -/
def name : CoreMethod → String
  | replace => "replace"
  | split => "split"

/-- The method with a name. -/
def find? (name : String) : Option CoreMethod :=
  all.find? fun m => m.name == name

/-- Calls a method. -/
def call (m : CoreMethod) (args : List Value) : Except Failure Value :=
  match m with
  | replace => do
    let subject ← textArgument "replace" args 0
    let piece ← textArgument "replace" args 1
    let replacement ← textArgument "replace" args 2
    return .string (Text.replace piece replacement subject)
  | split => do
    let subject ← textArgument "split" args 0
    let separator ← textArgument "split" args 1
    return .list ((Text.split separator subject).map Value.string)

/-- Calls the method with a name. -/
def callNamed (name : String) (args : List Value) : Except Failure Value :=
  match find? name with
  | some m => m.call args
  | none => .error (.unknownFunction ("core." ++ name))

end CoreMethod

end Templating
