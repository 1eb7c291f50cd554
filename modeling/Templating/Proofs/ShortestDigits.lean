import Templating.Proofs.DecimalRounding

/-! # The shortest digits of a double

The search for the shortest digits tries one digit, then two, and so on. A candidate is accepted if it lies in the interval
of the numbers that round to the double, and with seventeen digits one of the neighbours of a double always does. So the
shortest digits spell a number that rounds to the double.
-/

namespace Templating.Number

/-- The number that digits and an exponent spell. -/
def Decimal.value (d : Decimal) : ℚ :=
  d.digits * 10 ^ d.exponent

theorem zpow_eq_div {b : ℚ} (positive : 0 < b) (k : Int) : b ^ k = b ^ k.toNat / b ^ (-k).toNat := by
  rw [eq_div_iff (by positivity), ← zpow_natCast, ← zpow_natCast, ← zpow_add₀ positive.ne']
  congr 1
  omega

namespace Rounding

section

variable {m : Nat} {e : Int}

/-- The numbers that candidates are compared by are the number of the candidate and quarters of the last place. -/
theorem scaled_le_iff (quarters digits : Nat) (e exponent : Int) :
    quarters * (Nat.pow 2 (e - 2).toNat * Nat.pow 10 (-exponent).toNat) ≤
        digits * Nat.pow 10 exponent.toNat * Nat.pow 2 (2 - e).toNat ↔
      (quarters : ℚ) * 2 ^ (e - 2) ≤ digits * 10 ^ exponent := by
  rw [zpow_eq_div two_pos, zpow_eq_div (by norm_num : (0 : ℚ) < 10), neg_sub, ← mul_div_assoc, ← mul_div_assoc,
    div_le_div_iff₀ (by positivity) (by positivity)]
  simp only [Nat.pow_eq, ← mul_assoc]
  norm_cast

theorem le_scaled_iff (quarters digits : Nat) (e exponent : Int) :
    digits * Nat.pow 10 exponent.toNat * Nat.pow 2 (2 - e).toNat ≤
        quarters * (Nat.pow 2 (e - 2).toNat * Nat.pow 10 (-exponent).toNat) ↔
      digits * 10 ^ exponent ≤ (quarters : ℚ) * 2 ^ (e - 2) := by
  rw [zpow_eq_div two_pos, zpow_eq_div (by norm_num : (0 : ℚ) < 10), neg_sub, ← mul_div_assoc, ← mul_div_assoc,
    div_le_div_iff₀ (by positivity) (by positivity)]
  simp only [Nat.pow_eq, ← mul_assoc]
  norm_cast

theorem quarters_eq (positive : 0 < m) :
    ((ofDouble m e).low : ℚ) * 2 ^ (e - 2) = (m - gapBelow m e) * 2 ^ e ∧
      ((ofDouble m e).middle : ℚ) * 2 ^ (e - 2) = m * 2 ^ e ∧
      ((ofDouble m e).high : ℚ) * 2 ^ (e - 2) = (m + 1 / 2) * 2 ^ e := by
  have quarter : (2 : ℚ) ^ (e - 2) = 2 ^ e / 4 := by
    rw [zpow_sub₀ two_ne_zero]
    norm_num
  have low : ((ofDouble m e).low : ℚ) = 4 * (m - gapBelow m e) := by
    by_cases power : m = 2 ^ 52 ∧ -1074 < e
    · have least : (ofDouble m e).low = 4 * m - 1 := if_pos power
      rw [least, gapBelow, if_pos power, Nat.cast_sub (by omega)]
      push_cast
      ring
    · have least : (ofDouble m e).low = 4 * m - 2 := if_neg power
      rw [least, gapBelow, if_neg power, Nat.cast_sub (by omega)]
      push_cast
      ring
  rw [low, quarter]
  refine ⟨by ring, ?_, ?_⟩
  · simp only [ofDouble]
    push_cast
    ring
  · simp only [ofDouble]
    push_cast
    ring

theorem accepts_iff (positive : 0 < m) (d : Decimal) : (ofDouble m e).accepts d = true ↔ Rounds m e d.value := by
  obtain ⟨low, -, high⟩ := quarters_eq (m := m) (e := e) positive
  have atLeast := scaled_le_iff (ofDouble m e).low d.digits e d.exponent
  have atMost := le_scaled_iff (ofDouble m e).high d.digits e d.exponent
  have above := (le_scaled_iff (ofDouble m e).low d.digits e d.exponent).not
  have below := (scaled_le_iff (ofDouble m e).high d.digits e d.exponent).not
  rw [low, ← Decimal.value] at atLeast above
  rw [high, ← Decimal.value] at atMost below
  rw [not_le, not_le] at above below
  have closed : (ofDouble m e).closed = (m % 2 == 0) := rfl
  rw [accepts, closed]
  split
  · rename_i even
    have even : m % 2 = 0 := by simpa using even
    rw [Bool.and_eq_true, decide_eq_true_iff, decide_eq_true_iff]
    refine ⟨fun ⟨one, other⟩ => ⟨atLeast.mp one, atMost.mp other, fun odd => by omega⟩, fun rounds =>
      ⟨atLeast.mpr rounds.low, atMost.mpr rounds.high⟩⟩
  · rename_i odd
    have odd : m % 2 = 1 := by
      rw [beq_iff_eq] at odd
      omega
    rw [Bool.and_eq_true, decide_eq_true_iff, decide_eq_true_iff]
    refine ⟨fun ⟨one, other⟩ => ?_, fun rounds => ?_⟩
    · have inside := And.intro (above.mp one) (below.mp other)
      exact ⟨inside.1.le, inside.2.le, fun _ => inside⟩
    · obtain ⟨one, other⟩ := rounds.inside odd
      exact ⟨above.mpr one, below.mpr other⟩

theorem rounds_of_inside {v : ℚ} (above : (m - gapBelow m e) * 2 ^ e < v) (below : v < (m + 1 / 2) * 2 ^ e) : Rounds m e v :=
  ⟨above.le, below.le, fun _ => ⟨above, below⟩⟩

theorem value_eq (positive : 0 < m) :
    (m * 2 ^ e : ℚ) = ↑((ofDouble m e).middle * (ofDouble m e).num) / ↑(ofDouble m e).den := by
  obtain ⟨-, middle, -⟩ := quarters_eq (m := m) (e := e) positive
  have num : (ofDouble m e).num = 2 ^ (e - 2).toNat := rfl
  have den : (ofDouble m e).den = 2 ^ (2 - e).toNat := rfl
  rw [← middle, num, den, zpow_eq_div two_pos, neg_sub, mul_div_assoc']
  push_cast
  rfl

theorem magnitude_le (positive : 0 < m) : (10 : ℚ) ^ (ofDouble m e).magnitude ≤ m * 2 ^ e := by
  have unit : 0 < (ofDouble m e).den := Nat.pow_pos two_pos
  have some : 0 < (ofDouble m e).middle * (ofDouble m e).num :=
    Nat.mul_pos (Nat.mul_pos (by decide) positive) (Nat.pow_pos two_pos)
  rw [value_eq positive, magnitude]
  generalize (ofDouble m e).middle * (ofDouble m e).num = num at *
  generalize (ofDouble m e).den = den at *
  split
  · rename_i large
    have whole : 0 < num / den := Nat.div_pos large unit
    have digits : 0 < digitCount (num / den) := Nat.length_toDigits_pos
    have power : Int.ofNat (digitCount (num / den)) - 1 = (digitCount (num / den) - 1 : ℕ) := by
      rw [Int.ofNat_eq_natCast]
      omega
    rw [power, zpow_natCast]
    calc
      (10 : ℚ) ^ (digitCount (num / den) - 1) ≤ (num / den : ℕ) := by exact_mod_cast pow_digitCount_le whole
      _ ≤ num / den := Nat.cast_div_le
  · have below : den ≤ 10 ^ digitCount ((den - 1) / num) * num := by
      have := (Nat.div_lt_iff_lt_mul some).mp (lt_pow_digitCount ((den - 1) / num))
      omega
    rw [zpow_neg, Int.ofNat_eq_natCast, zpow_natCast, inv_le_comm₀ (by positivity) (by positivity), inv_div,
      div_le_iff₀ (by positivity)]
    exact_mod_cast below

/-- An accepted neighbour with some number of digits is one that rounds to the double. -/
theorem accepts_of_atDigits? {r : Rounding} {count : Nat} {d : Decimal} (found : r.atDigits? count = some d) :
    r.accepts d = true := by
  unfold atDigits? at found
  dsimp only at found
  split at found
  · rename_i below above
    cases found
    split
    · exact below
    · exact above
  · rename_i below above
    cases found
    exact below
  · rename_i below above
    cases found
    exact above
  · cases found

/-- Of two numbers around a double, less than the length of its interval apart, one rounds to it. -/
theorem rounds_of_near {low high : ℚ} (below : low ≤ m * 2 ^ e) (above : m * 2 ^ e < high)
    (near : high - low < (gapBelow m e + 1 / 2) * 2 ^ e) : Rounds m e low ∨ Rounds m e high := by
  have unit : (0 : ℚ) < 2 ^ e := zpow_pos two_pos e
  by_cases inside : (m - gapBelow m e) * 2 ^ e < low
  · exact .inl (rounds_of_inside inside (by linarith))
  · refine .inr (rounds_of_inside ?_ (by linarith))
    linarith [mul_nonneg (gapBelow_nonneg m e) unit.le]

/-- Two numbers of seventeen digits are nearer to each other than the ends of an interval. -/
theorem seventeen_digits (canonical : Canonical m e) :
    (10 : ℚ) ^ ((ofDouble m e).magnitude - 16) < (gapBelow m e + 1 / 2) * 2 ^ e := by
  have unit : (0 : ℚ) < 2 ^ e := zpow_pos two_pos e
  have fits : (m : ℚ) < 10 ^ 16 * (gapBelow m e + 1 / 2) := by
    by_cases power : m = 2 ^ 52 ∧ -1074 < e
    · rw [gapBelow, if_pos power, power.1]
      norm_num
    · have high : (m : ℚ) < 2 ^ 53 := by exact_mod_cast canonical.high
      rw [gapBelow, if_neg power]
      linarith
  rw [zpow_sub₀ (by norm_num), div_lt_iff₀ (by norm_num)]
  calc
    (10 : ℚ) ^ (ofDouble m e).magnitude ≤ m * 2 ^ e := magnitude_le canonical.pos
    _ < 10 ^ 16 * (gapBelow m e + 1 / 2) * 2 ^ e := mul_lt_mul_of_pos_right fits unit
    _ = (gapBelow m e + 1 / 2) * 2 ^ e * 10 ^ (16 : Int) := by
      rw [show (10 : ℚ) ^ (16 : Int) = 10 ^ 16 from rfl]
      ring

theorem exists_atDigits? (canonical : Canonical m e) : ∃ d, (ofDouble m e).atDigits? 17 = some d := by
  obtain ⟨scale, exponent⟩ : ∃ scale, scale = (ofDouble m e).magnitude - Int.ofNat 17 + 1 := ⟨_, rfl⟩
  obtain ⟨num, numerator⟩ : ∃ num, num = (ofDouble m e).middle * (ofDouble m e).num * Nat.pow 10 (-scale).toNat := ⟨_, rfl⟩
  obtain ⟨den, denominator⟩ : ∃ den, den = (ofDouble m e).den * Nat.pow 10 scale.toNat := ⟨_, rfl⟩
  have unit : 0 < den := denominator ▸ Nat.mul_pos (Nat.pow_pos two_pos) (Nat.pow_pos (by decide))
  have value : (num / den : ℚ) * 10 ^ scale = m * 2 ^ e := by
    have divisor : (0 : ℚ) < (ofDouble m e).den := by exact_mod_cast Nat.pow_pos two_pos
    rw [value_eq canonical.pos, zpow_eq_div (by norm_num : (0 : ℚ) < 10), numerator, denominator]
    simp only [Nat.pow_eq]
    push_cast
    field_simp
  have gap : (10 : ℚ) ^ scale < (gapBelow m e + 1 / 2) * 2 ^ e := by
    rw [show scale = (ofDouble m e).magnitude - 16 by rw [exponent, Int.ofNat_eq_natCast]; omega]
    exact seventeen_digits canonical
  have accepted : (ofDouble m e).accepts ⟨num / den, scale⟩ = true ∨
      (ofDouble m e).accepts ⟨num / den + 1, scale⟩ = true := by
    have step : (0 : ℚ) < 10 ^ scale := zpow_pos (by norm_num) scale
    have low : ((num / den : ℕ) : ℚ) ≤ num / den := Nat.cast_div_le
    have high : (num / den : ℚ) < (num / den + 1 : ℕ) := by
      rw [div_lt_iff₀ (by exact_mod_cast unit)]
      exact_mod_cast Nat.lt_mul_of_div_lt (Nat.lt_succ_self (num / den)) unit
    rw [accepts_iff canonical.pos, accepts_iff canonical.pos]
    refine rounds_of_near ?_ ?_ ?_
    · rw [← value]
      exact mul_le_mul_of_nonneg_right low step.le
    · rw [← value]
      exact mul_lt_mul_of_pos_right high step
    · rw [Decimal.value, Decimal.value, ← sub_mul]
      push_cast
      rwa [add_sub_cancel_left, one_mul]
  rw [atDigits?, ← exponent, ← numerator, ← denominator]
  obtain below | above := accepted
  · rw [below]
    cases (ofDouble m e).accepts ⟨num / den + 1, scale⟩ <;> exact ⟨_, rfl⟩
  · rw [above]
    cases (ofDouble m e).accepts ⟨num / den, scale⟩ <;> exact ⟨_, rfl⟩

end

end Rounding

theorem Decimal.value_dropZeros (fuel : Nat) (d : Decimal) : (dropZeros fuel d).value = d.value := by
  induction fuel generalizing d with
  | zero => rfl
  | succ fuel ih =>
      rw [dropZeros]
      split
      · rename_i ends
        have whole : (d.digits : ℚ) = ↑(d.digits / 10) * 10 := by exact_mod_cast (by omega : d.digits = d.digits / 10 * 10)
        rw [ih, value, value, zpow_add₀ (by norm_num), whole]
        ring
      · rfl

theorem rounds_shortest {m : Nat} {e : Int} (canonical : Canonical m e) : Rounds m e (shortest m e).value := by
  obtain ⟨last, enough⟩ := Rounding.exists_atDigits? canonical
  rw [shortest]
  split
  · rename_i d found
    obtain ⟨count, -, here⟩ := List.exists_of_findSome?_eq_some found
    rw [Decimal.value_dropZeros, ← Rounding.accepts_iff canonical.pos]
    exact Rounding.accepts_of_atDigits? here
  · rename_i nowhere
    have missing := List.findSome?_eq_none_iff.mp nowhere 16 (by decide)
    rw [enough] at missing
    cases missing

end Templating.Number
