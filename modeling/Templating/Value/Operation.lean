import Templating.Value.Operators

/-! # Operations by name

The operators on values under the names that compiled templates call them by. Patterns are searched for by an
engine of the host.
-/

namespace Templating.Operation

/-- An operation on one value. -/
abbrev Unary := Value → Except Failure Value

/-- An operation on two values. -/
abbrev Binary := Value → Value → Except Failure Value

/-- The operations on one value. -/
def unaries : List (String × Unary) := [
  ("neg", Value.neg),
  ("pos", Value.pos),
  ("is_empty", fun v => .ok (.bool v.isEmpty)),
  ("is_set", fun v => .ok (.bool (!v.isNull))),
  ("is_even", Value.isEven),
  ("is_odd", Value.isOdd)]

/-- The operations on two values. -/
def binaries (engine : PatternEngine) : List (String × Binary) := [
  ("add", Value.add),
  ("sub", Value.sub),
  ("mul", Value.mul),
  ("div", Value.div),
  ("rem", Value.rem),
  ("pow", Value.pow),
  ("concat", fun l r => .ok (l.concat r)),
  ("eq", fun l r => .ok (.bool (l.looselyEqual r))),
  ("ne", fun l r => .ok (.bool (!l.looselyEqual r))),
  ("identical", fun l r => .ok (.bool (l.same r))),
  ("lt", Value.less),
  ("le", Value.lessOrEqual),
  ("gt", Value.greater),
  ("ge", Value.greaterOrEqual),
  ("xor", fun l r => .ok (l.exclusiveOr r)),
  ("contains", Value.isIn),
  ("range", Value.range),
  ("divisible_by", Value.divisibleBy),
  ("like", Value.like engine),
  ("index", Value.index),
  ("matches_case", fun l r => .ok (.bool (l.looselyEqual r)))]

/-- The operation on one value with a name. -/
def unary? (name : String) : Option Unary :=
  unaries.lookup name

/-- The operation on two values with a name. -/
def binary? (name : String) (engine : PatternEngine := .standard) : Option Binary :=
  (binaries engine).lookup name

end Templating.Operation
