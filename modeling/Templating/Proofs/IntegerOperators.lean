import Templating.Proofs.NearestDoubles
import Templating.Value.Functions
import Mathlib.Data.Int.DivMod

/-! # Operators on whole numbers

What the operators do with two signed 64-bit numbers. Arithmetic gives the exact result or fails, but for two
operand pairs and some powers; comparison is by the nearest doubles, equality by the numbers themselves.
-/

namespace Templating.Number

theorem narrow?_of_range {n : Int} (low : -2 ^ 63 ≤ n) (high : n < 2 ^ 63) :
    ∃ m : Int64, narrow? n = some m ∧ m.toInt = n := by
  have kept : (Int64.ofInt n).toInt = n := Int64.toInt_ofInt_of_le low high
  have narrowed := narrow?_toInt (Int64.ofInt n)
  rw [kept] at narrowed
  exact ⟨Int64.ofInt n, narrowed, kept⟩

theorem narrow?_eq_none {n : Int} (out : n < -2 ^ 63 ∨ 2 ^ 63 ≤ n) : narrow? n = none := by
  refine if_neg fun range => ?_
  have low : -2 ^ 63 ≤ n := range.1
  have high : n ≤ 2 ^ 63 - 1 := range.2
  omega

theorem toInt_clamp (n : Int) : (clamp n).toInt = max (-2 ^ 63) (min n (2 ^ 63 - 1)) := by
  have least : Int64.minValue.toInt = -2 ^ 63 := rfl
  have most : Int64.maxValue.toInt = 2 ^ 63 - 1 := rfl
  simp only [clamp, least, most]
  split_ifs with below above
  · omega
  · omega
  · rw [Int64.toInt_ofInt_of_le (by omega) (by omega)]
    omega

theorem tdiv_range {a b : Int64} (divides : b.toInt ≠ 0) (fits : ¬ (a.toInt = -2 ^ 63 ∧ b.toInt = -1)) :
    -2 ^ 63 ≤ a.toInt.tdiv b.toInt ∧ a.toInt.tdiv b.toInt < 2 ^ 63 := by
  have low := a.le_toInt
  have high := a.toInt_lt
  have size : (a.toInt.tdiv b.toInt).natAbs = a.toInt.natAbs / b.toInt.natAbs := Int.natAbs_tdiv ..
  obtain one | minusOne | wide : b.toInt = 1 ∨ b.toInt = -1 ∨ 2 ≤ b.toInt.natAbs := by omega
  · rw [one, Int.tdiv_one]
    omega
  · rw [minusOne, Int.tdiv_neg, Int.tdiv_one]
    omega
  · have halved : a.toInt.natAbs / b.toInt.natAbs ≤ a.toInt.natAbs / 2 := Nat.div_le_div_left wide (by decide)
    omega

theorem quotient?_eq {a b : Int64} (divides : b.toInt ≠ 0) : quotient? a b = narrow? (a.toInt.tdiv b.toInt) :=
  if_neg fun zero => divides (by rw [zero]; rfl)

theorem remainder?_eq {a b : Int64} (divides : b.toInt ≠ 0) (fits : ¬ (a.toInt = -2 ^ 63 ∧ b.toInt = -1)) :
    remainder? a b = narrow? (a.toInt.tmod b.toInt) := by
  obtain ⟨q, quotient, -⟩ := narrow?_of_range (tdiv_range divides fits).1 (tdiv_range divides fits).2
  rw [remainder?, quotient?_eq divides, quotient]

theorem two_pow_le_natAbs_pow {n : Int} {size exponent : Nat} (wide : 2 ≤ n.natAbs) (beyond : size ≤ exponent) :
    2 ^ size ≤ (n ^ exponent).natAbs := calc
  2 ^ size ≤ 2 ^ exponent := Nat.pow_le_pow_right (by decide) beyond
  _ ≤ n.natAbs ^ exponent := Nat.pow_le_pow_left wide exponent
  _ = (n ^ exponent).natAbs := (Int.natAbs_pow n exponent).symm

theorem power?_eq (a : Int64) (exponent : Nat) : power? a exponent = narrow? (a.toInt ^ exponent) := by
  obtain zero | one | minusOne | wide :
      a.toInt = 0 ∨ a.toInt = 1 ∨ a.toInt = -1 ∨ 2 ≤ a.toInt.natAbs := by omega
  · have value : (if exponent = 0 then (1 : Int) else 0) = 0 ^ exponent := (zero_pow_eq exponent).symm
    simp [power?, zero, value]
  · simp [power?, one]
  · have value : (if exponent % 2 = 0 then (1 : Int) else -1) = (-1) ^ exponent := by
      split
      · rename_i even
        exact (Even.neg_one_pow (Nat.even_iff.mpr even)).symm
      · rename_i odd
        exact (Odd.neg_one_pow (Nat.odd_iff.mpr (by omega))).symm
    simp [power?, minusOne, value]
  · rw [power?, if_neg (by omega), if_neg (by omega)]
    by_cases beyond : 63 < exponent
    · have large : 2 ^ 64 ≤ (a.toInt ^ exponent).natAbs := two_pow_le_natAbs_pow wide beyond
      rw [if_pos beyond, narrow?_eq_none (by omega)]
    · exact if_neg beyond

end Templating.Number

namespace Templating.Value

open Number

/-- The outcome of an operator whose exact result is `n`: the word equal to `n`, or an overflow if there is none. -/
structure Exact (operator : String) (n : Int) (outcome : Except Failure Value) : Prop where
  fits : ∀ m : Int64, m.toInt = n → outcome = .ok (int m)
  overflows : (∀ m : Int64, m.toInt ≠ n) → outcome = .error (.overflow operator)

/-- The outcome of an operator that found a word, or found that there is none. -/
def wordOrOverflow (operator : String) : Option Int64 → Except Failure Value
  | some m => .ok (int m)
  | none => .error (.overflow operator)

theorem exact_of_narrow {operator : String} {n : Int} {outcome : Except Failure Value}
    (narrowed : outcome = wordOrOverflow operator (narrow? n)) : Exact operator n outcome where
  fits m same := by
    rw [narrowed, ← same, narrow?_toInt]
    rfl
  overflows none := by
    have out : n < -2 ^ 63 ∨ 2 ^ 63 ≤ n := by
      by_contra! range
      obtain ⟨m, -, same⟩ := narrow?_of_range range.1 range.2
      exact none m same
    rw [narrowed, narrow?_eq_none out]
    rfl

theorem add_exact (a b : Int64) : Exact "+" (a.toInt + b.toInt) (add (int a) (int b)) :=
  exact_of_narrow rfl

theorem sub_exact (a b : Int64) : Exact "-" (a.toInt - b.toInt) (sub (int a) (int b)) :=
  exact_of_narrow rfl

theorem mul_exact (a b : Int64) : Exact "*" (a.toInt * b.toInt) (mul (int a) (int b)) :=
  exact_of_narrow rfl

theorem neg_exact (a : Int64) : Exact "-" (-a.toInt) (neg (int a)) :=
  exact_of_narrow rfl

theorem abs_exact (a : Int64) : Exact "abs" |a.toInt| (Builtin.abs.call [int a]) := by
  rw [Int.abs_eq_natAbs]
  exact exact_of_narrow rfl

theorem div_zero (a : Int64) : div (int a) (int 0) = .error .divisionByZero :=
  rfl

theorem rem_zero (a : Int64) : rem (int a) (int 0) = .error .divisionByZero :=
  if_pos ((floatOfWord_beq_zero_iff 0).mpr rfl)

theorem rem_of_ne {a b : Int64} (divides : b.toInt ≠ 0) :
    rem (int a) (int b) = arithmetic "%" remainder? floatRemainder (int a) (int b) :=
  if_neg fun zero => divides ((floatOfWord_beq_zero_iff b).mp zero)

theorem rem_exact {a b : Int64} (divides : b.toInt ≠ 0) (fits : ¬ (a.toInt = -2 ^ 63 ∧ b.toInt = -1)) :
    Exact "%" (a.toInt.tmod b.toInt) (rem (int a) (int b)) := by
  refine exact_of_narrow ?_
  rw [rem_of_ne divides, arithmetic, remainder?_eq divides fits]
  rfl

/-- The quotient of a number by one of its divisors is exact, but for the least word by -1. -/
theorem div_exact {a b : Int64} (divides : b.toInt ≠ 0) (evenly : b.toInt ∣ a.toInt)
    (fits : ¬ (a.toInt = -2 ^ 63 ∧ b.toInt = -1)) : Exact "/" (a.toInt.tdiv b.toInt) (div (int a) (int b)) := by
  have even : remainder? a b = some 0 := by
    rw [remainder?_eq divides fits, Int.tmod_eq_zero_of_dvd evenly]
    exact narrow?_toInt 0
  refine exact_of_narrow ?_
  rw [div, if_neg fun zero => divides (by rw [zero]; rfl), if_pos even, quotient?_eq divides]
  rfl

theorem pow_of_short {a b : Int64} (whole : 0 ≤ b.toInt) (short : b.toInt < 2 ^ 32) :
    Exact "**" (a.toInt ^ b.toInt.toNat) (pow (int a) (int b)) := by
  have word : b.toInt < Int.pow 2 32 := short
  refine exact_of_narrow ?_
  rw [pow, if_pos whole, if_pos word, power?_eq]
  rfl

theorem pow_of_long (a : Int64) {b : Int64} (long : 2 ^ 32 ≤ b.toInt) :
    pow (int a) (int b) = .error (.overflow "**") := by
  have out : ¬ b.toInt < Int.pow 2 32 := not_lt.mpr long
  rw [pow, if_pos (by omega), if_neg out]

/-- A power is exact, but for the powers of 0, 1 and -1 by exponents of more than 32 bits. -/
theorem pow_exact {a b : Int64} (whole : 0 ≤ b.toInt) (fits : b.toInt < 2 ^ 32 ∨ 2 ≤ a.toInt.natAbs) :
    Exact "**" (a.toInt ^ b.toInt.toNat) (pow (int a) (int b)) := by
  by_cases short : b.toInt < 2 ^ 32
  · exact pow_of_short whole short
  · have wide : 2 ≤ a.toInt.natAbs := fits.resolve_left short
    have large : 2 ^ 64 ≤ (a.toInt ^ b.toInt.toNat).natAbs := two_pow_le_natAbs_pow wide (by omega)
    refine exact_of_narrow ?_
    rw [pow_of_long a (by omega), narrow?_eq_none (by omega)]
    rfl

/-- The least word by -1 is divided as doubles are, since its remainder does not exist. -/
theorem least_div : div (int Int64.minValue) (int (-1)) = .ok (float 9223372036854775808.0) := by
  have divides : ¬ (-1 : Int64) = 0 := by decide
  have undefined : ¬ remainder? Int64.minValue (-1) = some 0 := by decide
  have nonzero : ¬ (floatOfWord (-1) == 0.0) = true := (floatOfWord_beq_zero_iff _).not.mpr (by decide)
  have quotient : floatOfWord Int64.minValue / floatOfWord (-1) = 9223372036854775808.0 := by decide +kernel
  rw [div, if_neg divides, if_neg undefined, divFloats]
  simp only [toFloat?]
  rw [if_neg nonzero, quotient]

theorem least_rem : rem (int Int64.minValue) (int (-1)) = .error (.overflow "%") := by
  rw [rem_of_ne (by decide)]
  rfl

/-- Arithmetic on whole numbers is exact or overflows, division by zero is refused, and of the least word by -1
the remainder overflows and the quotient is a double; powers by exponents of more than 32 bits overflow, also
those of 0, 1 and -1. -/
theorem integer_arithmetic (a b : Int64) :
    Exact "+" (a.toInt + b.toInt) (add (int a) (int b)) ∧
    Exact "-" (a.toInt - b.toInt) (sub (int a) (int b)) ∧
    Exact "*" (a.toInt * b.toInt) (mul (int a) (int b)) ∧
    Exact "-" (-a.toInt) (neg (int a)) ∧
    Exact "abs" |a.toInt| (Builtin.abs.call [int a]) ∧
    (b = 0 → div (int a) (int b) = .error .divisionByZero ∧ rem (int a) (int b) = .error .divisionByZero) ∧
    (b ≠ 0 → ¬ (a = Int64.minValue ∧ b = -1) →
      Exact "%" (a.toInt.tmod b.toInt) (rem (int a) (int b)) ∧
      (b.toInt ∣ a.toInt → Exact "/" (a.toInt / b.toInt) (div (int a) (int b)))) ∧
    (a = Int64.minValue ∧ b = -1 →
      rem (int a) (int b) = .error (.overflow "%") ∧ div (int a) (int b) = .ok (float 9223372036854775808.0)) ∧
    (0 ≤ b.toInt → b.toInt < 2 ^ 32 ∨ 2 ≤ a.toInt.natAbs →
      Exact "**" (a.toInt ^ b.toInt.toNat) (pow (int a) (int b))) ∧
    (2 ^ 32 ≤ b.toInt → pow (int a) (int b) = .error (.overflow "**")) := by
  refine ⟨add_exact a b, sub_exact a b, mul_exact a b, neg_exact a, abs_exact a, ?zero, ?nonzero, ?least,
    pow_exact, pow_of_long a⟩
  case zero =>
    rintro rfl
    exact ⟨div_zero a, rem_zero a⟩
  case nonzero =>
    intro nonzero inside
    have divides : b.toInt ≠ 0 := fun zero => nonzero (Int64.toInt_inj.mp zero)
    have fits : ¬ (a.toInt = -2 ^ 63 ∧ b.toInt = -1) := fun least =>
      inside ⟨Int64.toInt_inj.mp least.1, Int64.toInt_inj.mp least.2⟩
    refine ⟨rem_exact divides fits, fun evenly => ?_⟩
    rw [← Int.tdiv_eq_ediv_of_dvd evenly]
    exact div_exact divides evenly fits
  case least =>
    rintro ⟨rfl, rfl⟩
    exact ⟨least_rem, least_div⟩

theorem six_by_three :
    div (int 6) (int 3) = .ok (int 2) ∧ rem (int 6) (int 3) = .ok (int 0) ∧
      pow (int 6) (int 3) = .ok (int 216) := by
  obtain ⟨-, -, -, -, -, -, divided, -, raised, -⟩ := integer_arithmetic 6 3
  obtain ⟨rest, quotient⟩ := divided (by decide) (by decide)
  exact ⟨(quotient (by decide)).fits 2 (by decide), rest.fits 0 (by decide),
    (raised (by decide) (.inl (by decide))).fits 216 (by decide)⟩

/-- The remainder of the least word by -1 is 0, its quotient is no word, and 1 is every power of 1; none of the
three comes out. -/
theorem least_by_minusOne :
    rem (int Int64.minValue) (int (-1)) ≠ .ok (int 0) ∧ Int64.minValue.toInt.tmod (-1) = (0 : Int64).toInt ∧
    ¬ Exact "/" (Int64.minValue.toInt / -1) (div (int Int64.minValue) (int (-1))) ∧
    pow (int 1) (int 4294967296) ≠ .ok (int 1) ∧ (1 : Int64).toInt ^ 4294967296 = (1 : Int64).toInt := by
  refine ⟨?_, by decide, fun exact => ?_, ?_, one_pow _⟩
  · rw [least_rem]
    nofun
  · have out : ∀ m : Int64, m.toInt ≠ Int64.minValue.toInt / -1 := fun m => m.toInt_lt.ne
    have overflow := exact.overflows out
    rw [least_div] at overflow
    nomatch overflow
  · rw [pow_of_long 1 (by decide)]
    nofun

theorem compare_ints (operator : String) (a b : Int64) :
    compare operator (int a) (int b) = .ok (Ord.compare (nearest a.toInt) (nearest b.toInt)) := by
  rw [compare]
  · simp only [toFloat?, floatOfWord_lt_iff, floatOfWord_beq_iff]
    obtain less | same | more := lt_trichotomy (nearest a.toInt) (nearest b.toInt)
    · rw [if_pos less, compare_lt_iff_lt.mpr less]
    · rw [if_neg same.not_lt, if_neg same.not_gt, if_pos same, compare_eq_iff_eq.mpr same]
    · rw [if_neg more.not_gt, if_pos more, compare_gt_iff_gt.mpr more]
  · nofun

theorem compare_flags (x y : Int) :
    (Ord.compare x y).isLT = decide (x < y) ∧ (Ord.compare x y).isLE = decide (x ≤ y) ∧
      (Ord.compare x y).isGT = decide (y < x) ∧ (Ord.compare x y).isGE = decide (y ≤ x) := by
  obtain less | rfl | more := lt_trichotomy x y
  · simp [compare_lt_iff_lt.mpr less, less, less.le]
  · simp
  · simp [compare_gt_iff_gt.mpr more, more, more.le]

theorem nearest_lt_iff (a b : Int64) :
    nearest a.toInt < nearest b.toInt ↔ a < b ∧ nearest a.toInt ≠ nearest b.toInt := by
  rw [Int64.lt_iff_toInt_lt]
  constructor
  · intro less
    exact ⟨lt_of_not_ge fun atMost => (nearest_mono atMost).not_gt less, less.ne⟩
  · rintro ⟨less, apart⟩
    exact (nearest_mono less.le).lt_of_ne apart

theorem nearest_le_iff (a b : Int64) :
    nearest a.toInt ≤ nearest b.toInt ↔ a ≤ b ∨ nearest a.toInt = nearest b.toInt := by
  rw [Int64.le_iff_toInt_le]
  constructor
  · intro atMost
    by_contra! outside
    exact outside.2 (atMost.antisymm (nearest_mono outside.1.le))
  · rintro (atMost | same)
    · exact nearest_mono atMost
    · exact same.le

/-- Comparison is the order of whole numbers wherever the two have different doubles, which different numbers of
at most 53 digits do. Numbers that share a double compare as equal by order, and as different by equality. -/
theorem integer_comparison (a b : Int64) :
    less (int a) (int b) = .ok (bool (a < b ∧ nearest a.toInt ≠ nearest b.toInt)) ∧
    lessOrEqual (int a) (int b) = .ok (bool (a ≤ b ∨ nearest a.toInt = nearest b.toInt)) ∧
    greater (int a) (int b) = .ok (bool (b < a ∧ nearest b.toInt ≠ nearest a.toInt)) ∧
    greaterOrEqual (int a) (int b) = .ok (bool (b ≤ a ∨ nearest b.toInt = nearest a.toInt)) ∧
    looselyEqual (int a) (int b) = (a == b) ∧
    (a = b ∨ nearest a.toInt ≠ nearest b.toInt ∨ 2 ^ 53 < a.toInt.natAbs ∨ 2 ^ 53 < b.toInt.natAbs) := by
  refine ⟨?_, ?_, ?_, ?_, rfl, ?_⟩
  · simp only [less, compare_ints, Except.map, compare_flags, nearest_lt_iff]
  · simp only [lessOrEqual, compare_ints, Except.map, compare_flags, nearest_le_iff]
  · simp only [greater, compare_ints, Except.map, compare_flags, nearest_lt_iff]
  · simp only [greaterOrEqual, compare_ints, Except.map, compare_flags, nearest_le_iff]
  · by_contra! shared
    obtain ⟨apart, same, left, right⟩ := shared
    rw [nearest_of_small left, nearest_of_small right] at same
    exact apart (Int64.toInt_inj.mp same)

/-- The number after `2 ^ 53` shares its double, so none of less, equal and greater holds, and at most holds both
ways. -/
theorem neighbours_undecided :
    (9007199254740992 : Int64) < 9007199254740993 ∧
    less (int 9007199254740992) (int 9007199254740993) = .ok (bool false) ∧
    looselyEqual (int 9007199254740992) (int 9007199254740993) = false ∧
    greater (int 9007199254740992) (int 9007199254740993) = .ok (bool false) ∧
    lessOrEqual (int 9007199254740992) (int 9007199254740993) = .ok (bool true) ∧
    lessOrEqual (int 9007199254740993) (int 9007199254740992) = .ok (bool true) := by
  have kept : nearest (Int64.toInt 9007199254740992) = 9007199254740992 := by decide +kernel
  have rounded : nearest (Int64.toInt 9007199254740993) = 9007199254740992 := by decide +kernel
  simp only [less, greater, lessOrEqual, compare_ints, kept, rounded]
  exact ⟨by decide, rfl, by decide, rfl, rfl, rfl⟩

end Templating.Value
