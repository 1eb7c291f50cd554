import Templating.Number.Word

/-! # Floating-point numbers taken apart

A double is not a number, an infinity, or a whole number times a power of two. What is exact about
doubles is computed on that form: the remainder, and the whole number that a double is equal to.
-/

namespace Templating.Number

/-- What a double stands for. -/
inductive Binary64 where
  /-- Not a number. -/
  | nan
  /-- An infinity of either sign. -/
  | infinite (negative : Bool)
  /-- The number `mantissa * 2 ^ exponent`, negated if `negative`. -/
  | finite (negative : Bool) (mantissa : Nat) (exponent : Int)
deriving Repr, DecidableEq, BEq

namespace Binary64

/-- The exponent of the smallest positive double. -/
def leastExponent : Int := -1074

/-- Takes a double apart. A nonzero number has a mantissa of 53 bits, or the least exponent. -/
def ofFloat (x : Float) : Binary64 :=
  let bits := x.toBits.toNat
  let negative := bits / Nat.pow 2 63 == 1
  let biased := bits / Nat.pow 2 52 % Nat.pow 2 11
  let fraction := bits % Nat.pow 2 52
  if biased = 2047 then (if fraction = 0 then infinite negative else nan)
  else if biased = 0 then finite negative fraction leastExponent
  else finite negative (Nat.pow 2 52 + fraction) (Int.ofNat biased - 1075)

/-- The double equal to `mantissa * 2 ^ exponent`, for a mantissa of at most 53 bits and an exponent that
doubles have. -/
def toFloat (negative : Bool) (mantissa : Nat) (exponent : Int) : Float :=
  let sign := if negative then Nat.pow 2 63 else 0
  if mantissa = 0 then Float.ofBits (UInt64.ofNat sign)
  else
    let shift := min (52 - mantissa.log2) (exponent - leastExponent).toNat
    let shifted := mantissa * Nat.pow 2 shift
    if shifted < Nat.pow 2 52 then Float.ofBits (UInt64.ofNat (sign + shifted))
    else
      let biased := (exponent - Int.ofNat shift + 1075).toNat
      Float.ofBits (UInt64.ofNat (sign + biased * Nat.pow 2 52 + (shifted - Nat.pow 2 52)))

/-- The whole number that a double is equal to. -/
def whole? : Binary64 → Option Int
  | nan => none
  | infinite _ => none
  | finite negative mantissa exponent =>
    let signed (n : Nat) : Int := if negative then -(Int.ofNat n) else Int.ofNat n
    if 0 ≤ exponent then some (signed (mantissa * Nat.pow 2 exponent.toNat))
    else
      let unit := Nat.pow 2 (-exponent).toNat
      if mantissa % unit = 0 then some (signed (mantissa / unit)) else none

end Binary64

/-- The remainder of `a` by `b` with the sign of `a`, which is always exact. -/
def floatRemainder (a b : Float) : Float :=
  match Binary64.ofFloat a, Binary64.ofFloat b with
  | .nan, _ => a
  | _, .nan => b
  | .infinite _, _ => 0.0 / 0.0
  | .finite _ _ _, .infinite _ => a
  | .finite negative m e, .finite _ n f =>
    if n = 0 then 0.0 / 0.0
    else
      let unit := min e f
      let rest := (m * Nat.pow 2 (e - unit).toNat) % (n * Nat.pow 2 (f - unit).toNat)
      Binary64.toFloat negative rest unit

/-- The double nearest to a signed 64-bit number. -/
def floatOfWord (n : Int64) : Float :=
  Float.ofInt n.toInt

end Templating.Number
