/-! # Whole numbers of 64 bits

Arithmetic on signed 64-bit numbers that notices when the exact result does not fit.
-/

namespace Templating.Number

/-- The signed 64-bit number equal to `n`, if there is one. -/
def narrow? (n : Int) : Option Int64 :=
  if Int64.minValue.toInt ≤ n ∧ n ≤ Int64.maxValue.toInt then some (Int64.ofInt n) else none

theorem toInt_of_narrow? {n : Int} {m : Int64} (narrowed : narrow? n = some m) : m.toInt = n := by
  rw [narrow?] at narrowed
  split at narrowed
  · rename_i range
    cases narrowed
    exact Int64.toInt_ofInt_of_le range.1 (Int.lt_add_one_of_le range.2)
  · cases narrowed

theorem narrow?_toInt (m : Int64) : narrow? m.toInt = some m := by
  rw [narrow?, if_pos ⟨Int64.le_toInt m, Int64.toInt_le m⟩, Int64.ofInt_toInt]

/-- The signed 64-bit number nearest to `n`. -/
def clamp (n : Int) : Int64 :=
  if n < Int64.minValue.toInt then Int64.minValue
  else if Int64.maxValue.toInt < n then Int64.maxValue
  else Int64.ofInt n

/-- The exact sum, if it fits. -/
def sum? (a b : Int64) : Option Int64 :=
  narrow? (a.toInt + b.toInt)

/-- The exact difference, if it fits. -/
def difference? (a b : Int64) : Option Int64 :=
  narrow? (a.toInt - b.toInt)

/-- The exact product, if it fits. -/
def product? (a b : Int64) : Option Int64 :=
  narrow? (a.toInt * b.toInt)

/-- The quotient rounded toward zero, if the divisor is not zero and the quotient fits. -/
def quotient? (a b : Int64) : Option Int64 :=
  if b = 0 then none else narrow? (a.toInt.tdiv b.toInt)

/-- The remainder with the sign of the dividend. It exists when the quotient does. -/
def remainder? (a b : Int64) : Option Int64 :=
  match quotient? a b with
  | none => none
  | some _ => narrow? (a.toInt.tmod b.toInt)

/-- The exact power, if it fits. Beyond exponent 63 only the powers of 0, 1 and -1 do. -/
def power? (a : Int64) (exponent : Nat) : Option Int64 :=
  let base := a.toInt
  if base = 0 ∨ base = 1 then narrow? (if exponent = 0 then 1 else base)
  else if base = -1 then narrow? (if exponent % 2 = 0 then 1 else -1)
  else if 63 < exponent then none
  else narrow? (Int.pow base exponent)

/-- The negation, if it fits. -/
def negation? (a : Int64) : Option Int64 :=
  narrow? (-a.toInt)

/-- The distance from zero, if it fits. -/
def magnitude? (a : Int64) : Option Int64 :=
  narrow? a.toInt.natAbs

/-- Reads an optional sign and at least one decimal digit as a signed 64-bit number. -/
def readWord? (text : List Char) : Option Int64 :=
  let signed :=
    match text with
    | '-' :: digits => (true, digits)
    | '+' :: digits => (false, digits)
    | digits => (false, digits)
  if signed.2.isEmpty || !signed.2.all Char.isDigit then none
  else
    let size := signed.2.foldl (fun value c => value * 10 + (c.toNat - '0'.toNat)) 0
    narrow? (if signed.1 then -(Int.ofNat size) else Int.ofNat size)

end Templating.Number
