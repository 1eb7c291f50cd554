import Templating.Proofs.DecimalRounding
import Templating.Proofs.IntegerOperators

/-! # Tests on numbers

Whether a number is even, odd or a multiple of another is asked of the word nearest to it. That answers for the number
itself as long as it has at most 64 bits. A double beyond them is even, but the highest word, which stands in for it, is
odd; of two such doubles it is the words that are divided.
-/

namespace Templating

namespace Number.Binary64

/-- The number that a double is. -/
def value? : Binary64 → Option ℚ
  | nan | infinite _ => none
  | finite negative m e => some ((if negative then -(m : ℚ) else m) * 2 ^ e)

theorem whole?_eq_some_iff (b : Binary64) (n : Int) : b.whole? = some n ↔ b.value? = some (n : ℚ) := by
  cases b with
  | nan | infinite => simp [whole?, value?]
  | finite negative m e =>
      by_cases up : 0 ≤ e
      · lift e to ℕ using up
        cases negative <;> simp [whole?, value?] <;> norm_cast
      · obtain ⟨k, rfl⟩ : ∃ k : ℕ, e = -k := ⟨e.natAbs, by omega⟩
        have unit : (2 : ℚ) ^ k ≠ 0 := by positivity
        simp only [whole?, value?, if_neg up, neg_neg, Int.toNat_natCast, Nat.pow_eq, zpow_neg, zpow_natCast,
          Option.some.injEq, ← div_eq_mul_inv, div_eq_iff unit]
        by_cases even : m % 2 ^ k = 0
        · obtain ⟨q, rfl⟩ := Nat.dvd_of_mod_eq_zero even
          have back : (2 : ℚ) ^ k * q = n * 2 ^ k ↔ (q : ℚ) = n := by
            rw [mul_comm, mul_left_inj' unit]
          have negated : -((2 : ℚ) ^ k * q) = n * 2 ^ k ↔ -(q : ℚ) = n := by
            rw [← mul_neg, mul_comm, mul_left_inj' unit]
          cases negative
          · simp [back]
            norm_cast
          · simp [negated]
            norm_cast
        · simp only [if_neg even, reduceCtorEq, false_iff]
          intro same
          apply even
          apply Nat.mod_eq_zero_of_dvd
          apply Int.natCast_dvd_natCast.mp
          cases negative
          · exact ⟨n, by rw [mul_comm]; exact_mod_cast same⟩
          · exact ⟨-n, by rw [mul_neg, mul_comm, eq_neg_iff_add_eq_zero, ← neg_eq_iff_add_eq_zero]; exact_mod_cast same⟩

theorem even_of_wide {x : Float} {negative : Bool} {m : Nat} {e n : Int}
    (taken : ofFloat x = finite negative m e) (value : (if negative then -(m : ℚ) else m) * 2 ^ e = n) (wide : 2 ^ 63 ≤ |n|) :
    2 ∣ n := by
  have size : (2 : ℚ) ^ 63 ≤ m * 2 ^ e := by
    have unit : (0 : ℚ) < 2 ^ e := zpow_pos two_pos e
    have magnitude : |(n : ℚ)| = m * 2 ^ e := by
      rw [← value, abs_mul, abs_of_pos unit]
      split <;> simp
    rw [← magnitude]
    exact_mod_cast wide
  have positive : 0 < m := by
    by_contra! zero
    rw [Nat.le_zero.mp zero, Nat.cast_zero, zero_mul] at size
    norm_num at size
  have digits : (m : ℚ) < 2 ^ 53 := by exact_mod_cast (canonical_of_ofFloat taken positive).high
  have up : 1 ≤ e := by
    by_contra! low
    have unit : (2 : ℚ) ^ e ≤ 2 ^ (0 : Int) := zpow_le_zpow_right₀ one_le_two (by omega)
    have small : m * (2 : ℚ) ^ e ≤ m * 1 := mul_le_mul_of_nonneg_left unit (Nat.cast_nonneg m)
    linarith
  obtain ⟨k, rfl⟩ : ∃ k : ℕ, e = (k + 1 : ℕ) := ⟨(e - 1).toNat, by omega⟩
  refine ⟨(if negative then -(m : Int) else m) * 2 ^ k, ?_⟩
  have doubled : (n : ℚ) = 2 * ((if negative then -(m : ℚ) else m) * 2 ^ k) := by
    rw [← value, zpow_natCast, pow_succ]
    ring
  exact_mod_cast doubled

end Number.Binary64

namespace Value

open Number

/-- The number that a value is. -/
def number? : Value → Option ℚ
  | int n => some n.toInt
  | float x => (Binary64.ofFloat x).value?
  | _ => none

/-- The word that stands in for a number: the number itself, or the end of the words that is nearest to it. -/
def standIn (n : Int) : Int :=
  max (-2 ^ 63) (min n (2 ^ 63 - 1))

theorem standIn_of_word {n : Int} (low : -2 ^ 63 ≤ n) (high : n < 2 ^ 63) : standIn n = n := by
  unfold standIn
  omega

theorem standIn_eq_zero_iff {n : Int} : standIn n = 0 ↔ n = 0 := by
  unfold standIn
  omega

theorem toInt?_of_number {v : Value} {n : Int} (whole : v.number? = some (n : ℚ)) : v.toInt? = some (clamp n) := by
  cases v with
  | int m =>
      have same : m.toInt = n := by exact_mod_cast Option.some.inj whole
      rw [toInt?, ← same]
      apply congrArg some
      apply Int64.toInt_inj.mp
      rw [toInt_clamp]
      have := m.toInt_lt
      have := m.le_toInt
      omega
  | float x => rw [toInt?, (Binary64.whole?_eq_some_iff _ n).mpr whole, Option.map_some]
  | null | bool | string | list | map => cases whole

theorem toInt?_eq_none {v : Value} (unwhole : ∀ n : Int, v.number? ≠ some (n : ℚ)) : v.toInt? = none := by
  cases v with
  | int m => exact absurd rfl (unwhole m.toInt)
  | float x =>
      rw [toInt?, Option.map_eq_none_iff, Option.eq_none_iff_forall_ne_some]
      intro n whole
      exact unwhole n ((Binary64.whole?_eq_some_iff _ n).mp whole)
  | null | bool | string | list | map => rfl

theorem even_of_no_word {v : Value} {n : Int} (whole : v.number? = some (n : ℚ)) (out : n < -2 ^ 63 ∨ 2 ^ 63 ≤ n) : 2 ∣ n := by
  cases v with
  | int m =>
      have same : m.toInt = n := by exact_mod_cast Option.some.inj whole
      have := m.toInt_lt
      have := m.le_toInt
      omega
  | float x =>
      rw [number?] at whole
      cases taken : Binary64.ofFloat x with
      | nan | infinite =>
          rw [taken] at whole
          cases whole
      | finite negative m e =>
          rw [taken] at whole
          refine Binary64.even_of_wide taken (Option.some.inj whole) ?_
          rw [le_abs]
          omega
  | null | bool | string | list | map => cases whole

theorem all_remainder? {a b : Int64} (divides : b ≠ 0) : (remainder? a b).all (· == 0) = decide (b.toInt ∣ a.toInt) := by
  have nonzero : b.toInt ≠ 0 := fun zero => divides (Int64.toInt_inj.mp zero)
  by_cases least : a.toInt = -2 ^ 63 ∧ b.toInt = -1
  · obtain rfl : a = Int64.minValue := Int64.toInt_inj.mp least.1
    obtain rfl : b = -1 := Int64.toInt_inj.mp least.2
    decide
  · have size : (a.toInt.tmod b.toInt).natAbs = a.toInt.natAbs % b.toInt.natAbs := Int.natAbs_tmod ..
    have below : a.toInt.natAbs % b.toInt.natAbs < b.toInt.natAbs := Nat.mod_lt _ (by omega)
    have := b.toInt_lt
    have := b.le_toInt
    obtain ⟨rest, narrowed, same⟩ := narrow?_of_range (n := a.toInt.tmod b.toInt) (by omega) (by omega)
    rw [remainder?_eq nonzero least, narrowed, Option.all_some, Bool.eq_iff_iff, beq_iff_eq, decide_eq_true_iff,
      Int.dvd_iff_tmod_eq_zero, ← same]
    exact Int64.toInt_inj.symm

theorem isEven_eq {v : Value} {n : Int} (whole : v.number? = some (n : ℚ)) : v.isEven = .ok (bool (2 ∣ standIn n)) := by
  rw [isEven, toInt?_of_number whole]
  simp only [toInt_clamp, Int.dvd_iff_tmod_eq_zero, beq_eq_decide]
  rfl

theorem isOdd_eq {v : Value} {n : Int} (whole : v.number? = some (n : ℚ)) : v.isOdd = .ok (bool (¬ 2 ∣ standIn n)) := by
  rw [isOdd, toInt?_of_number whole]
  simp only [toInt_clamp, Int.dvd_iff_tmod_eq_zero, bne, beq_eq_decide, ← decide_not]
  rfl

theorem divisibleBy_eq {v w : Value} {n d : Int} (whole : v.number? = some (n : ℚ)) (divisor : w.number? = some (d : ℚ)) :
    v.divisibleBy w = if d = 0 then .error .divisionByZero else .ok (bool (standIn d ∣ standIn n)) := by
  have zero : clamp d = 0 ↔ d = 0 := by
    rw [← Int64.toInt_inj, toInt_clamp]
    exact standIn_eq_zero_iff
  simp only [divisibleBy, toInt?_of_number whole, toInt?_of_number divisor, zero]
  split
  · rfl
  · rename_i divides
    rw [all_remainder? (zero.not.mpr divides), toInt_clamp, toInt_clamp]
    rfl

/-- The tests of a whole number are answered for the word that stands in for it: an even number counts as even unless it
is beyond the highest word, where all are even and none counts as such, and divisors and multiples are taken from words.
What is no whole number is refused. -/
theorem number_tests (v : Value) :
    (∀ n : Int, v.number? = some (n : ℚ) →
      v.isEven = .ok (bool (2 ∣ n ∧ n < 2 ^ 63)) ∧ v.isOdd = .ok (bool (¬ (2 ∣ n ∧ n < 2 ^ 63))) ∧
      v.divisibleBy (int 2) = v.isEven ∧ (n < -2 ^ 63 ∨ 2 ^ 63 ≤ n → 2 ∣ n) ∧
      ∀ (w : Value) (d : Int), w.number? = some (d : ℚ) →
        (d = 0 → v.divisibleBy w = .error .divisionByZero) ∧
        (d ≠ 0 → v.divisibleBy w = .ok (bool (standIn d ∣ standIn n))) ∧
        (d ≠ 0 → -2 ^ 63 ≤ n → n < 2 ^ 63 → -2 ^ 63 ≤ d → d < 2 ^ 63 → v.divisibleBy w = .ok (bool (d ∣ n)))) ∧
    ((∀ n : Int, v.number? ≠ some (n : ℚ)) →
      v.isEven = .error (.invalidArgument "even" (.expected "int" v.kind)) ∧
      v.isOdd = .error (.invalidArgument "odd" (.expected "int" v.kind)) ∧
      ∀ w, v.divisibleBy w = .error (.operands "divisible by" v w) ∧
        w.divisibleBy v = .error (.operands "divisible by" w v)) := by
  constructor
  · intro n whole
    have two : number? (int 2) = some ((2 : Int) : ℚ) := rfl
    have even : 2 ∣ standIn n ↔ 2 ∣ n ∧ n < 2 ^ 63 := by
      have beyond := even_of_no_word whole
      unfold standIn
      omega
    refine ⟨?_, ?_, ?_, even_of_no_word whole, ?_⟩
    · rw [isEven_eq whole]
      simp only [even]
    · rw [isOdd_eq whole]
      simp only [even]
    · rw [divisibleBy_eq whole two, isEven_eq whole]
      rfl
    · intro w d divisor
      rw [divisibleBy_eq whole divisor]
      refine ⟨fun zero => if_pos zero, fun divides => if_neg divides, ?_⟩
      intro divides low high least most
      rw [if_neg divides, standIn_of_word low high, standIn_of_word least most]
  · intro unwhole
    have none := toInt?_eq_none unwhole
    refine ⟨?_, ?_, fun w => ⟨?_, ?_⟩⟩
    · simp only [isEven, none]
    · simp only [isOdd, none]
    · simp only [divisibleBy, none]
    · cases word : w.toInt? <;> simp only [divisibleBy, none, word]

theorem twelve_tests :
    number? (float 12.0) = some ((12 : Int) : ℚ) ∧ (float 12.0).isEven = .ok (bool true) ∧
    (float 12.0).isOdd = .ok (bool false) ∧ (float 12.0).divisibleBy (int (-4)) = .ok (bool true) ∧
    (∀ n : Int, number? (string "12") ≠ some (n : ℚ)) ∧
    (string "12").isEven = .error (.invalidArgument "even" (.expected "int" .string)) := by
  have taken : Binary64.ofFloat 12.0 = .finite false 6755399441055744 (-49) := by rfl
  have twelve : number? (float 12.0) = some ((12 : Int) : ℚ) := by
    rw [number?, taken, Binary64.value?]
    norm_num
  have text : ∀ n : Int, number? (string "12") ≠ some (n : ℚ) := fun n => nofun
  obtain ⟨even, odd, -, -, divisible⟩ := (number_tests (float 12.0)).1 12 twelve
  have four := (divisible (int (-4)) (-4) rfl).2.2 (by decide) (by decide) (by decide) (by decide) (by decide)
  exact ⟨twelve, even, odd, four, text, ((number_tests (string "12")).2 text).1⟩

/-- The double after the highest word counts as odd, and the double `10 ^ 19` as a multiple of 7 and not of 10. -/
theorem beyond_words_misjudged :
    number? (float 9223372036854775808.0) = some ((2 ^ 63 : Int) : ℚ) ∧ (2 : Int) ∣ 2 ^ 63 ∧
    (float 9223372036854775808.0).isEven = .ok (bool false) ∧ (float 9223372036854775808.0).isOdd = .ok (bool true) ∧
    number? (float 10000000000000000000.0) = some ((10 ^ 19 : Int) : ℚ) ∧ (10 : Int) ∣ 10 ^ 19 ∧ ¬ (7 : Int) ∣ 10 ^ 19 ∧
    (float 10000000000000000000.0).divisibleBy (int 10) = .ok (bool false) ∧
    (float 10000000000000000000.0).divisibleBy (int 7) = .ok (bool true) := by
  have taken : Binary64.ofFloat 9223372036854775808.0 = .finite false 4503599627370496 11 := by rfl
  have larger : Binary64.ofFloat 10000000000000000000.0 = .finite false 4882812500000000 11 := by rfl
  have first : number? (float 9223372036854775808.0) = some ((2 ^ 63 : Int) : ℚ) := by
    rw [number?, taken, Binary64.value?]
    norm_num
  have second : number? (float 10000000000000000000.0) = some ((10 ^ 19 : Int) : ℚ) := by
    rw [number?, larger, Binary64.value?]
    norm_num
  refine ⟨first, by decide, ?_, ?_, second, by decide, by decide, ?_, ?_⟩
  · rw [isEven_eq first]
    rfl
  · rw [isOdd_eq first]
    rfl
  · rw [divisibleBy_eq (d := 10) second rfl]
    rfl
  · rw [divisibleBy_eq (d := 7) second rfl]
    rfl

end Value

end Templating
