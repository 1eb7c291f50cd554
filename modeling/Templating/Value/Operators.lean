import Templating.Value.Failure
import Templating.Pattern.Reader
import Templating.Text.Search

/-! # Operators on values

The operators that templates apply to values. Arithmetic on whole numbers is exact or fails; any
floating-point operand makes the result floating-point.
-/

namespace Templating.Value

/-- An arithmetic operator: whole numbers by `onInts`, all other numbers by `onFloats`. -/
def arithmetic (operator : String) (onInts : Int64 → Int64 → Option Int64)
    (onFloats : Float → Float → Float) (l r : Value) : Except Failure Value :=
  match l, r with
  | int a, int b =>
    match onInts a b with
    | some n => .ok (int n)
    | none => .error (.overflow operator)
  | l, r =>
    match l.toFloat?, r.toFloat? with
    | some a, some b => .ok (float (onFloats a b))
    | _, _ => .error (.operands operator l r)

/-- The sum. -/
def add : Value → Value → Except Failure Value :=
  arithmetic "+" Number.sum? (· + ·)

/-- The difference. -/
def sub : Value → Value → Except Failure Value :=
  arithmetic "-" Number.difference? (· - ·)

/-- The product. -/
def mul : Value → Value → Except Failure Value :=
  arithmetic "*" Number.product? (· * ·)

/-- The floating-point quotient. -/
def divFloats (l r : Value) : Except Failure Value :=
  match l.toFloat?, r.toFloat? with
  | some a, some b => if b == 0.0 then .error .divisionByZero else .ok (float (a / b))
  | _, _ => .error (.operands "/" l r)

/-- The quotient, which is whole only when whole numbers divide evenly. -/
def div (l r : Value) : Except Failure Value :=
  match l, r with
  | int a, int b =>
    if b = 0 then .error .divisionByZero
    else if Number.remainder? a b = some 0 then
      match Number.quotient? a b with
      | some n => .ok (int n)
      | none => .error (.overflow "/")
    else divFloats l r
  | l, r => divFloats l r

/-- The remainder with the sign of the dividend. -/
def rem (l r : Value) : Except Failure Value :=
  if r.toFloat?.any (· == 0.0) then .error .divisionByZero
  else arithmetic "%" Number.remainder? Number.floatRemainder l r

/-- The floating-point power. -/
def powFloats (l r : Value) : Except Failure Value :=
  match l.toFloat?, r.toFloat? with
  | some a, some b => .ok (float (Float.pow a b))
  | _, _ => .error (.operands "**" l r)

/-- The power, which is whole for whole numbers and an exponent that is not negative. Exponents of more
than 32 bits overflow. -/
def pow (l r : Value) : Except Failure Value :=
  match l, r with
  | int a, int b =>
    if 0 ≤ b.toInt then
      match (if b.toInt < Int.pow 2 32 then Number.power? a b.toInt.toNat else none) with
      | some n => .ok (int n)
      | none => .error (.overflow "**")
    else powFloats l r
  | l, r => powFloats l r

/-- The texts of both operands in a row. -/
def concat (l r : Value) : Value :=
  string (l.display ++ r.display)

/-- The negation of a number. -/
def neg (v : Value) : Except Failure Value :=
  match v with
  | int n =>
    match Number.negation? n with
    | some m => .ok (int m)
    | none => .error (.overflow "-")
  | float x => .ok (float (-x))
  | other => .error (.operands "-" null other)

/-- A number itself. -/
def pos (v : Value) : Except Failure Value :=
  match v with
  | int n => .ok (int n)
  | float x => .ok (float x)
  | other => .error (.operands "+" null other)

/-- Whether two values are equal, where a whole number may equal a floating-point number. -/
def looselyEqual (l r : Value) : Bool :=
  match l, r with
  | int a, float b => Number.floatOfWord a == b
  | float a, int b => a == Number.floatOfWord b
  | l, r => same l r

/-- Compares two texts, or two numbers as floating-point numbers. -/
def compare (operator : String) (l r : Value) : Except Failure Ordering :=
  match l, r with
  | string a, string b => .ok (Ord.compare a b)
  | l, r =>
    match l.toFloat?, r.toFloat? with
    | some a, some b =>
      if a < b then .ok .lt
      else if b < a then .ok .gt
      else if a == b then .ok .eq
      else .error (.operands operator l r)
    | _, _ => .error (.operands operator l r)

/-- Whether the left operand comes first. -/
def less (l r : Value) : Except Failure Value :=
  (compare "<" l r).map fun o => bool o.isLT

/-- Whether the left operand does not come last. -/
def lessOrEqual (l r : Value) : Except Failure Value :=
  (compare "<=" l r).map fun o => bool o.isLE

/-- Whether the left operand comes last. -/
def greater (l r : Value) : Except Failure Value :=
  (compare ">" l r).map fun o => bool o.isGT

/-- Whether the left operand does not come first. -/
def greaterOrEqual (l r : Value) : Except Failure Value :=
  (compare ">=" l r).map fun o => bool o.isGE

/-- Whether exactly one operand holds. -/
def exclusiveOr (l r : Value) : Value :=
  bool (l.truthy != r.truthy)

/-- Whether a container holds `needle`: as an item, as a key, or as a piece of text. -/
def isIn (needle haystack : Value) : Except Failure Value :=
  match haystack with
  | list items => .ok (bool (items.any fun item => looselyEqual item needle))
  | map entries => .ok (bool (entries.any fun entry => entry.1 == needle.display))
  | string s => .ok (bool (Text.hasPiece needle.display.toList s.toList))
  | null => .ok (bool false)
  | other => .error (.operands "in" needle other)

/-- The whole numbers from `low` upwards, `count` of them. -/
def intsFrom (low : Int) (count : Nat) : List Value :=
  (List.range count).map fun i => int (Int64.ofInt (low + Int.ofNat i))

/-- The whole numbers from `l` to `r`, both included, downwards if `r` is smaller. -/
def range (l r : Value) : Except Failure Value :=
  match l.toInt?, r.toInt? with
  | some a, some b =>
    if a ≤ b then .ok (list (intsFrom a.toInt ((b.toInt - a.toInt).toNat + 1)))
    else .ok (list (intsFrom b.toInt ((a.toInt - b.toInt).toNat + 1)).reverse)
  | _, _ => .error (.operands ".." l r)

/-- Whether a whole number is even. -/
def isEven (v : Value) : Except Failure Value :=
  match v.toInt? with
  | some n => .ok (bool (n.toInt.tmod 2 == 0))
  | none => .error (.invalidArgument "even" (.expected "int" v.kind))

/-- Whether a whole number is odd. -/
def isOdd (v : Value) : Except Failure Value :=
  match v.toInt? with
  | some n => .ok (bool (n.toInt.tmod 2 != 0))
  | none => .error (.invalidArgument "odd" (.expected "int" v.kind))

/-- Whether `r` divides `l` evenly. -/
def divisibleBy (l r : Value) : Except Failure Value :=
  match l.toInt?, r.toInt? with
  | some a, some b =>
    if b = 0 then .error .divisionByZero
    else .ok (bool ((Number.remainder? a b).all (· == 0)))
  | _, _ => .error (.operands "divisible by" l r)

/-- Whether the pattern `r` matches somewhere in the text of `l`. -/
def like (engine : PatternEngine) (l r : Value) : Except Failure Value :=
  match r with
  | string pattern =>
    match engine.search pattern l.display with
    | .ok found => .ok (bool found)
    | .error message => .error (.pattern message)
  | r => .error (.operands "like" l r)

/-- The entry of `base` under `key`. A missing entry is null, and negative positions count from the end of
a list. -/
def index (base key : Value) : Except Failure Value :=
  match base with
  | list items =>
    .ok <| ((key.toInt?).bind fun n =>
      let i := if n.toInt < 0 then Int.ofNat items.length + n.toInt else n.toInt
      if 0 ≤ i then items[i.toNat]? else none).getD null
  | map entries => .ok ((entries.lookup key.display).getD null)
  | string s =>
    .ok <| ((key.toInt?).bind fun n =>
      if 0 ≤ n.toInt then (s.toList[n.toInt.toNat]?).map ofChar else none).getD null
  | null => .ok null
  | base => .error (.operands "[]" base key)

end Templating.Value
