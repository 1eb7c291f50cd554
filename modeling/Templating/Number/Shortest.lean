import Templating.Number.Binary64

/-! # The fewest digits that read back

Every positive double is the nearest double to a whole interval of numbers. Its shortest decimal is the
decimal with the fewest digits inside that interval, and of several the one nearest to the double.
-/

namespace Templating.Number

/-- How many decimal digits a positive number has. -/
def digitCount (n : Nat) : Nat :=
  (Nat.toDigits 10 n).length

/-- The number `digits * 10 ^ exponent`. -/
structure Decimal where
  /-- The significant digits, read as one number. -/
  digits : Nat
  /-- The power of ten they are scaled by. -/
  exponent : Int
deriving Repr, DecidableEq, BEq

/-- The numbers that round to one double: `low` to `high` around `middle`, in units of `num / den`. -/
structure Rounding where
  /-- The lowest number of the interval. -/
  low : Nat
  /-- The double itself. -/
  middle : Nat
  /-- The highest number of the interval. -/
  high : Nat
  /-- The numerator of the unit. -/
  num : Nat
  /-- The denominator of the unit. -/
  den : Nat
  /-- Whether the ends of the interval round to the double too. -/
  closed : Bool
deriving Repr, DecidableEq, BEq

namespace Rounding

/-- The interval of a positive double, in quarters of its last place. Below a power of two the doubles lie
twice as close. -/
def ofDouble (mantissa : Nat) (exponent : Int) : Rounding where
  low := if mantissa = Nat.pow 2 52 ∧ Binary64.leastExponent < exponent then 4 * mantissa - 1 else 4 * mantissa - 2
  middle := 4 * mantissa
  high := 4 * mantissa + 2
  num := Nat.pow 2 (exponent - 2).toNat
  den := Nat.pow 2 (2 - exponent).toNat
  closed := mantissa % 2 == 0

/-- The power of ten at or below the double. -/
def magnitude (r : Rounding) : Int :=
  let num := r.middle * r.num
  if r.den ≤ num then Int.ofNat (digitCount (num / r.den)) - 1
  else -(Int.ofNat (digitCount ((r.den - 1) / num)))

/-- Whether `digits * 10 ^ exponent` rounds to the double. -/
def accepts (r : Rounding) (candidate : Decimal) : Bool :=
  let scaled := candidate.digits * Nat.pow 10 candidate.exponent.toNat * r.den
  let unit := r.num * Nat.pow 10 (-candidate.exponent).toNat
  if r.closed then decide (r.low * unit ≤ scaled) && decide (scaled ≤ r.high * unit)
  else decide (r.low * unit < scaled) && decide (scaled < r.high * unit)

/-- The accepted one of the double's two neighbours with `count` digits; of two the nearer one, and of two
equally near the higher one. -/
def atDigits? (r : Rounding) (count : Nat) : Option Decimal :=
  let exponent := r.magnitude - Int.ofNat count + 1
  let num := r.middle * r.num * Nat.pow 10 (-exponent).toNat
  let den := r.den * Nat.pow 10 exponent.toNat
  let below : Decimal := ⟨num / den, exponent⟩
  let above : Decimal := ⟨num / den + 1, exponent⟩
  match r.accepts below, r.accepts above with
  | true, true => some (if 2 * (num % den) < den then below else above)
  | true, false => some below
  | false, true => some above
  | false, false => none

end Rounding

/-- A decimal without zeros at the end of its digits; `fuel` bounds how many are dropped. -/
def Decimal.dropZeros : Nat → Decimal → Decimal
  | 0, d => d
  | fuel + 1, d =>
    if d.digits ≠ 0 ∧ d.digits % 10 = 0 then dropZeros fuel ⟨d.digits / 10, d.exponent + 1⟩ else d

/-- The shortest decimal of a positive double. Seventeen digits always suffice. -/
def shortest (mantissa : Nat) (exponent : Int) : Decimal :=
  let r := Rounding.ofDouble mantissa exponent
  match (List.range 17).findSome? (fun i => r.atDigits? (i + 1)) with
  | some d => Decimal.dropZeros 20 d
  | none => ⟨0, 0⟩

end Templating.Number
