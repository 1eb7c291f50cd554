import Templating.Number.Layout
import Templating.Proofs.NearestDoubles

/-! # The double nearest to a decimal

Every positive double is the nearest double to the numbers of a whole interval. Products and quotients of doubles are
computed with as many digits as rounding needs, and a decimal is read as such a product or quotient: so a decimal inside the
interval of a double is read as that double.
-/

namespace Templating.Number

open Float.Model Float.Model.UnpackedFloat

/-- `m * 2 ^ e` is how a positive double is written: with 53 digits, or with the least exponent. -/
structure Canonical (m : Nat) (e : Int) : Prop where
  pos : 0 < m
  high : m < 2 ^ 53
  least : -1074 ≤ e
  most : e ≤ 971
  full : 2 ^ 52 ≤ m ∨ e = -1074

/-- How far below the double `m * 2 ^ e` its interval begins, in units of its last digit. Below a power of two the doubles
lie twice as close. -/
def gapBelow (m : Nat) (e : Int) : ℚ :=
  if m = 2 ^ 52 ∧ -1074 < e then 1 / 4 else 1 / 2

theorem gapBelow_le (m : Nat) (e : Int) : gapBelow m e ≤ 1 / 2 := by
  unfold gapBelow
  split <;> norm_num

theorem gapBelow_nonneg (m : Nat) (e : Int) : 0 ≤ gapBelow m e := by
  unfold gapBelow
  split <;> norm_num

/-- A number rounds to the positive double `m * 2 ^ e`. The ends of the interval do if the mantissa is even. -/
structure Rounds (m : Nat) (e : Int) (v : ℚ) : Prop where
  low : (m - gapBelow m e) * 2 ^ e ≤ v
  high : v ≤ (m + 1 / 2) * 2 ^ e
  inside : m % 2 = 1 → (m - gapBelow m e) * 2 ^ e < v ∧ v < (m + 1 / 2) * 2 ^ e

/-- A number begins with a mantissa, and the two further digits say where it lies between that and the next one. -/
inductive Stands : ExtendedMantissa → ℚ → Prop where
  | whole {m : Nat} {x : ℚ} : x = m → Stands ⟨m, false, false⟩ x
  | below {m : Nat} {x : ℚ} : m < x → x < m + 1 / 2 → Stands ⟨m, false, true⟩ x
  | half {m : Nat} {x : ℚ} : x = m + 1 / 2 → Stands ⟨m, true, false⟩ x
  | above {m : Nat} {x : ℚ} : m + 1 / 2 < x → x < m + 1 → Stands ⟨m, true, true⟩ x

theorem Stands.bounds {em : ExtendedMantissa} {x : ℚ} (stands : Stands em x) : em.mantissa ≤ x ∧ x < em.mantissa + 1 := by
  cases stands <;> constructor <;> dsimp only <;> linarith

theorem stands_quotient (n : Nat) {d : Nat} (positive : 0 < d) :
    Stands (.ofMantissaAndAccuracy (n / d) (accuracyOfFraction (n % d) d)) (n / d : ℚ) := by
  have unit : (0 : ℚ) < d := by exact_mod_cast positive
  have rest : ((n % d : ℕ) : ℚ) < d := by exact_mod_cast Nat.mod_lt n positive
  have split : (n : ℚ) = d * ↑(n / d) + ↑(n % d) := by exact_mod_cast (Nat.div_add_mod n d).symm
  have quotient : (n / d : ℚ) = ↑(n / d) + ↑(n % d) / d := by
    rw [split, add_div, mul_div_cancel_left₀ _ unit.ne']
  have fraction : ((n % d : ℕ) : ℚ) / d < 1 := (div_lt_one unit).mpr rest
  rw [quotient, accuracyOfFraction]
  generalize n / d = q at *
  split
  · rename_i none
    exact .whole (by rw [none, Nat.cast_zero, zero_div, add_zero])
  · rename_i some
    have positive : (0 : ℚ) < ↑(n % d) / d := div_pos (by exact_mod_cast Nat.pos_of_ne_zero some) unit
    cases order : compare (2 * (n % d)) d with
    | lt =>
        have less : (↑(n % d) * 2 : ℚ) < 1 * d := by exact_mod_cast (by have := Nat.compare_eq_lt.mp order; omega)
        exact .below (by linarith) (add_lt_add_right ((div_lt_div_iff₀ unit two_pos).mpr less) _)
    | eq =>
        have same : (↑(n % d) * 2 : ℚ) = 1 * d := by exact_mod_cast (by have := Nat.compare_eq_eq.mp order; omega)
        exact .half (congrArg _ ((div_eq_div_iff unit.ne' two_ne_zero).mpr same))
    | gt =>
        have more : (1 * d : ℚ) < ↑(n % d) * 2 := by exact_mod_cast (by have := Nat.compare_eq_gt.mp order; omega)
        exact .above (add_lt_add_right ((div_lt_div_iff₀ two_pos unit).mpr more) _) (by linarith)

/-- The digit that is dropped becomes the first further digit; the second one notes whether anything was behind it. -/
theorem Stands.shiftRightOne {em : ExtendedMantissa} {x : ℚ} (stands : Stands em x) : Stands em.shiftRightOne (x / 2) := by
  have parity (m : Nat) : m % 2 = 0 ∧ (m : ℚ) = 2 * ↑(m / 2) ∨ m % 2 = 1 ∧ (m : ℚ) = 2 * ↑(m / 2) + 1 := by
    obtain even | odd : m % 2 = 0 ∨ m % 2 = 1 := by omega
    · exact .inl ⟨even, by exact_mod_cast (by omega : m = 2 * (m / 2))⟩
    · exact .inr ⟨odd, by exact_mod_cast (by omega : m = 2 * (m / 2) + 1)⟩
  have behind {m : Nat} {x : ℚ} (low : m < x) (high : x < m + 1) : Stands ⟨m / 2, m % 2 != 0, true⟩ (x / 2) := by
    obtain ⟨even, split⟩ | ⟨odd, split⟩ := parity m
    · rw [even]
      exact .below (by linarith) (by linarith)
    · rw [odd]
      exact .above (by linarith) (by linarith)
  cases stands with
  | @whole m x here =>
      rw [ExtendedMantissa.shiftRightOne]
      obtain ⟨even, split⟩ | ⟨odd, split⟩ := parity m
      · rw [even]
        exact .whole (by linarith)
      · rw [odd]
        exact .half (by linarith)
  | below low high => exact behind low (by linarith)
  | half here => exact behind (by linarith) (by linarith)
  | above low high => exact behind (by linarith) high

theorem Stands.shiftRight {em : ExtendedMantissa} {x : ℚ} (stands : Stands em x) (k : Nat) :
    Stands (em >>> k) (x / 2 ^ k) := by
  induction k with
  | zero =>
      rw [pow_zero, div_one]
      exact stands
  | succ k ih =>
      rw [shiftRight_succ, pow_succ, ← div_div]
      exact ih.shiftRightOne

/-- A number is rounded to the whole number it is nearest to, of two to the even one. -/
theorem Stands.roundedMantissa {em : ExtendedMantissa} {x : ℚ} (stands : Stands em x) {n : Nat} (low : n - 1 / 2 ≤ x)
    (high : x ≤ n + 1 / 2) (inside : n % 2 = 1 → (n : ℚ) - 1 / 2 < x ∧ x < n + 1 / 2) : em.roundedMantissa = n := by
  have between (m : Nat) : (n : ℚ) < m + 1 → (m : ℚ) < n + 1 → m = n := fun above below =>
    le_antisymm (Nat.lt_succ_iff.mp (by exact_mod_cast below)) (Nat.lt_succ_iff.mp (by exact_mod_cast above))
  cases stands with
  | @whole m _ here => exact between m (by linarith) (by linarith)
  | @below m _ after before => exact between m (by linarith) (by linarith)
  | @half m _ here =>
      -- A tie: only an even number may be the nearest.
      have even : n % 2 = 0 := by
        by_contra odd
        obtain ⟨after, before⟩ := inside (by omega)
        have above : n ≤ m := Nat.lt_succ_iff.mp (by exact_mod_cast (by linarith : (n : ℚ) < m + 1))
        have below : m < n := by exact_mod_cast (by linarith : (m : ℚ) < n)
        omega
      have above : n ≤ m + 1 := by exact_mod_cast (by linarith : (n : ℚ) ≤ m + 1)
      have below : m ≤ n := by exact_mod_cast (by linarith : (m : ℚ) ≤ n)
      change m + m % 2 = n
      omega
  | @above m _ after before => exact between (m + 1) (by push_cast; linarith) (by push_cast; linarith)

theorem Canonical.shift_eq {m : Nat} {e : Int} (canonical : Canonical m e) :
    shiftToTargetExponent Format.binary64 m e .exact = (⟨m, false, false⟩, e) := by
  have log2 : m.log2 ≤ 52 := Nat.lt_succ_iff.mp ((Nat.log2_lt canonical.pos.ne').mpr canonical.high)
  have least := canonical.least
  have shift : (max (m.log2 + e - 52) (-1074) - e).toNat = 0 := by omega
  rw [shiftToTargetExponent, targetExponent_binary64, shiftToExponent, shift]
  exact Prod.ext rfl (add_zero e)

/-- The first shift leaves 53 digits before the point, or fewer at the least exponent. -/
theorem exists_shift {m : Nat} {e : Int} {accuracy : Accuracy} {x : ℚ}
    (stands : Stands (.ofMantissaAndAccuracy m accuracy) x) (wide : 52 ≤ m.log2 ∨ e ≤ -1074) :
    ∃ em t y, shiftToTargetExponent Format.binary64 m e accuracy = (em, t) ∧ Stands em y ∧ y * 2 ^ t = x * 2 ^ e ∧
      y < 2 ^ 53 ∧ -1074 ≤ t ∧ (2 ^ 52 ≤ y ∨ t = -1074) := by
  obtain ⟨k, target⟩ : ∃ k : Nat, e + k = max (m.log2 + e - 52) (-1074) :=
    ⟨(max (m.log2 + e - 52) (-1074) - e).toNat, by omega⟩
  have shift : (max (m.log2 + e - 52) (-1074) - e).toNat = k := by omega
  have same : (ExtendedMantissa.ofMantissaAndAccuracy m accuracy).mantissa = m := by
    rcases accuracy with _ | _ | _ | _ <;> rfl
  obtain ⟨low, high⟩ := stands.bounds
  rw [same] at low high
  have scale : (0 : ℚ) < 2 ^ k := by positivity
  refine ⟨_, e + k, x / 2 ^ k, ?_, stands.shiftRight k, ?_, ?_, by omega, ?_⟩
  · rw [shiftToTargetExponent, targetExponent_binary64, shiftToExponent, shift]
  · rw [zpow_add₀ two_ne_zero, zpow_natCast]
    field_simp
  · rw [div_lt_iff₀ scale]
    calc
      x < m + 1 := high
      _ ≤ 2 ^ (m.log2 + 1) := by exact_mod_cast Nat.succ_le_of_lt Nat.lt_log2_self
      _ ≤ 2 ^ (53 + k) := pow_le_pow_right₀ one_le_two (by omega)
      _ = 2 ^ 53 * 2 ^ k := pow_add 2 53 k
  · obtain least | digits : e + k = -1074 ∨ m.log2 = 52 + k := by omega
    · exact .inr least
    · have nonzero : m ≠ 0 := by
        rintro rfl
        rw [Nat.log2_zero] at digits
        omega
      left
      rw [le_div_iff₀ scale, ← pow_add, ← digits]
      exact le_trans (by exact_mod_cast Nat.log2_self_le nonzero) low

/-- The digits of a number that rounds to a double are at most one place in front of those of the double, and that only
below a power of two. -/
theorem digits_below {n d : Nat} {gap y : ℚ} (wide : 2 ^ 52 ≤ (n : ℚ)) (small : gap ≤ 1 / 2)
    (reaches : (n - gap) * 2 ^ (d + 1) ≤ y) (high : y < 2 ^ 53) : d = 0 ∧ n = 2 ^ 52 := by
  obtain rfl : d = 0 := by
    by_contra more
    have twice : (2 : ℚ) ^ 2 ≤ 2 ^ (d + 1) := pow_le_pow_right₀ one_le_two (by omega)
    have := mul_le_mul (by linarith : (2 : ℚ) ^ 52 - 1 / 2 ≤ n - gap) twice (by norm_num) (by linarith)
    linarith
  rw [zero_add, pow_one] at reaches
  have above : 2 ^ 52 ≤ n := by exact_mod_cast wide
  have close : (n : ℚ) < 2 ^ 52 + 1 := by linarith
  have below : n < 2 ^ 52 + 1 := by exact_mod_cast close
  exact ⟨rfl, by omega⟩

theorem roundWithAccuracy_of_rounds (s : Sign) {m : Nat} {e : Int} {accuracy : Accuracy} {x : ℚ}
    (stands : Stands (.ofMantissaAndAccuracy m accuracy) x) (wide : 52 ≤ m.log2 ∨ e ≤ -1074) {n : Nat} {f : Int}
    (canonical : Canonical n f) (rounds : Rounds n f (x * 2 ^ e)) :
    roundWithAccuracy Format.binary64 s m e accuracy = .finite s n f canonical.pos := by
  obtain ⟨em, t, y, first, begins, value, high, least, full⟩ := exists_shift stands wide
  rw [← value] at rounds
  have gap := gapBelow_le n f
  obtain before | rfl | after := lt_trichotomy t f
  · -- Only a number just below a power of two has its digits in front of those of the double.
    obtain ⟨d, rfl⟩ : ∃ d : Nat, f = t + (d + 1 : ℕ) := ⟨(f - t - 1).toNat, by omega⟩
    have wide : (2 : ℚ) ^ 52 ≤ n := by exact_mod_cast canonical.full.resolve_right (by omega)
    have reaches : (n - gapBelow n (t + (d + 1 : ℕ))) * 2 ^ (d + 1) ≤ y := by
      refine le_of_mul_le_mul_right ?_ (zpow_pos (two_pos (α := ℚ)) t)
      calc
        _ = (n - gapBelow n (t + (d + 1 : ℕ))) * 2 ^ (t + (d + 1 : ℕ)) := by
          rw [zpow_add₀ two_ne_zero, zpow_natCast]
          ring
        _ ≤ y * 2 ^ t := rounds.low
    obtain ⟨rfl, rfl⟩ := digits_below wide gap reaches high
    have quarter : gapBelow (2 ^ 52) (t + (0 + 1 : ℕ)) = 1 / 4 := if_pos ⟨rfl, by omega⟩
    rw [quarter] at reaches
    push_cast at reaches
    have rounded : em.roundedMantissa = 2 ^ 53 :=
      begins.roundedMantissa (by push_cast; linarith) (by push_cast; linarith) (by simp)
    exact roundWithAccuracy_finite s first rounded (shiftToTargetExponent_carried least) canonical.pos
  · have unit : (0 : ℚ) < 2 ^ t := zpow_pos two_pos t
    have rounded : em.roundedMantissa = n := by
      refine begins.roundedMantissa ?_ (le_of_mul_le_mul_right rounds.high unit) fun odd => ?_
      · linarith [le_of_mul_le_mul_right rounds.low unit]
      · obtain ⟨above, below⟩ := rounds.inside odd
        exact ⟨by linarith [lt_of_mul_lt_mul_right above unit.le], lt_of_mul_lt_mul_right below unit.le⟩
    exact roundWithAccuracy_finite s first rounded canonical.shift_eq canonical.pos
  · -- A number whose digits lie behind those of the double is above its interval.
    obtain ⟨d, rfl⟩ : ∃ d : Nat, t = f + (d + 1 : ℕ) := ⟨(t - f - 1).toNat, by omega⟩
    have reaches : y * 2 ^ (d + 1) ≤ n + 1 / 2 := by
      refine le_of_mul_le_mul_right ?_ (zpow_pos (two_pos (α := ℚ)) f)
      calc
        _ = y * 2 ^ (f + (d + 1 : ℕ)) := by
          rw [zpow_add₀ two_ne_zero, zpow_natCast]
          ring
        _ ≤ (n + 1 / 2) * 2 ^ f := rounds.high
    have full : (2 : ℚ) ^ 52 ≤ y := full.resolve_right (by have := canonical.least; omega)
    have twice : (2 : ℚ) ^ 1 ≤ 2 ^ (d + 1) := pow_le_pow_right₀ one_le_two (by omega)
    have below : (n : ℚ) + 1 ≤ 2 ^ 53 := by exact_mod_cast canonical.high
    have := mul_le_mul full twice (by norm_num) (by linarith)
    linarith

theorem mul_of_rounds {m₁ m₂ : Nat} {e₁ e₂ : Int} (pos₁ : 0 < m₁) (pos₂ : 0 < m₂) (wide : 52 ≤ (m₁ * m₂).log2)
    {n : Nat} {f : Int} (canonical : Canonical n f) (rounds : Rounds n f (m₁ * 2 ^ e₁ * (m₂ * 2 ^ e₂))) :
    UnpackedFloat.mul Format.binary64 (.finite .positive m₁ e₁ pos₁) (.finite .positive m₂ e₂ pos₂) =
      .finite .positive n f canonical.pos := by
  refine roundWithAccuracy_of_rounds .positive (.whole rfl) (.inl wide) canonical ?_
  have value : ((m₁ * m₂ : ℕ) : ℚ) * 2 ^ (e₁ + e₂) = m₁ * 2 ^ e₁ * (m₂ * 2 ^ e₂) := by
    push_cast
    rw [zpow_add₀ two_ne_zero]
    ring
  rwa [value]

theorem div_of_rounds {m₁ m₂ : Nat} {e₁ e₂ : Int} (pos₁ : 0 < m₁) (pos₂ : 0 < m₂) {n : Nat} {f : Int}
    (canonical : Canonical n f) (rounds : Rounds n f (m₁ * 2 ^ e₁ / (m₂ * 2 ^ e₂))) :
    UnpackedFloat.div Format.binary64 (.finite .positive m₁ e₁ pos₁) (.finite .positive m₂ e₂ pos₂) =
      .finite .positive n f canonical.pos := by
  -- The exponent of the quotient, and how many digits the dividend is given for it.
  obtain ⟨t, target⟩ : ∃ t, t = min (e₁ - e₂) (max (m₁.log2 + e₁ - m₂.log2 - e₂ - 53) (-1074)) := ⟨_, rfl⟩
  obtain ⟨k, shift⟩ : ∃ k : Nat, t + k = e₁ - e₂ := ⟨(e₁ - e₂ - t).toNat, by omega⟩
  have core : divCore Format.binary64 m₁ e₁ m₂ e₂ =
      (m₁ * 2 ^ k / m₂, t, accuracyOfFraction (m₁ * 2 ^ k % m₂) m₂) := by
    have least : min (e₁ - e₂) (Format.binary64.targetExponent (totalExponent m₁ e₁ - totalExponent m₂ e₂)) = t := by
      simp only [Format.targetExponent, totalExponent, Format.mantissaBits, Format.minExponent]
      omega
    have given : (e₁ - e₂ - t).toNat = k := by omega
    simp only [divCore, least, given, Nat.shiftLeft_eq]
  have value : ((m₁ * 2 ^ k : ℕ) / m₂ : ℚ) * 2 ^ t = m₁ * 2 ^ e₁ / (m₂ * 2 ^ e₂) := by
    have scaled : (2 : ℚ) ^ e₁ = 2 ^ k * 2 ^ t * 2 ^ e₂ := by
      rw [← zpow_natCast, ← zpow_add₀ two_ne_zero, ← zpow_add₀ two_ne_zero]
      congr 1
      omega
    have unit : (0 : ℚ) < 2 ^ e₂ := zpow_pos two_pos e₂
    rw [scaled]
    push_cast
    field_simp
  have wide : 52 ≤ (m₁ * 2 ^ k / m₂).log2 ∨ t ≤ -1074 := by
    by_cases least : t ≤ -1074
    · exact .inr least
    · left
      have enough : 2 ^ 52 ≤ m₁ * 2 ^ k / m₂ := by
        rw [Nat.le_div_iff_mul_le pos₂]
        calc
          2 ^ 52 * m₂ ≤ 2 ^ 52 * 2 ^ (m₂.log2 + 1) := Nat.mul_le_mul_left _ Nat.lt_log2_self.le
          _ = 2 ^ (52 + (m₂.log2 + 1)) := (pow_add 2 52 _).symm
          _ ≤ 2 ^ (m₁.log2 + k) := Nat.pow_le_pow_right two_pos (by omega)
          _ = 2 ^ m₁.log2 * 2 ^ k := pow_add 2 _ k
          _ ≤ m₁ * 2 ^ k := Nat.mul_le_mul_right _ (Nat.log2_self_le pos₁.ne')
      exact (Nat.le_log2 (by omega)).mpr enough
  have rounded := roundWithAccuracy_of_rounds .positive (stands_quotient (m₁ * 2 ^ k) pos₂) wide canonical (value ▸ rounds)
  unfold UnpackedFloat.div
  simp only [core]
  exact rounded

theorem Rounds.bounds {m : Nat} {e : Int} {v : ℚ} (rounds : Rounds m e v) (canonical : Canonical m e) :
    2 ^ (-1075 : Int) ≤ v ∧ v ≤ 2 ^ (1024 : Int) := by
  have gap := gapBelow_le m e
  have unit : (0 : ℚ) < 2 ^ e := zpow_pos two_pos e
  have one : (1 : ℚ) ≤ m := by exact_mod_cast canonical.pos
  have below : (m : ℚ) + 1 ≤ 2 ^ 53 := by exact_mod_cast canonical.high
  constructor
  · calc
      (2 : ℚ) ^ (-1075 : Int) = 1 / 2 * 2 ^ (-1074 : Int) := by
        rw [show (-1075 : Int) = -1 + -1074 from rfl, zpow_add₀ two_ne_zero, zpow_neg_one, one_div]
      _ ≤ 1 / 2 * 2 ^ e := mul_le_mul_of_nonneg_left (zpow_le_zpow_right₀ one_le_two canonical.least) (by norm_num)
      _ ≤ (m - gapBelow m e) * 2 ^ e := mul_le_mul_of_nonneg_right (by linarith) unit.le
      _ ≤ v := rounds.low
  · calc
      v ≤ (m + 1 / 2) * 2 ^ e := rounds.high
      _ ≤ 2 ^ 53 * 2 ^ e := mul_le_mul_of_nonneg_right (by linarith) unit.le
      _ ≤ 2 ^ 53 * 2 ^ (971 : Int) := mul_le_mul_of_nonneg_left (zpow_le_zpow_right₀ one_le_two canonical.most) (by norm_num)
      _ = 2 ^ (1024 : Int) := by
        rw [show (1024 : Int) = 53 + 971 from rfl, zpow_add₀ two_ne_zero]
        rfl

theorem Rounds.digits_pos {n m : Nat} {e f : Int} (rounds : Rounds m f (n * 10 ^ e)) (canonical : Canonical m f) :
    0 < n := by
  obtain ⟨least, -⟩ := rounds.bounds canonical
  rw [Nat.pos_iff_ne_zero]
  rintro rfl
  rw [Nat.cast_zero, zero_mul] at least
  exact least.not_gt (zpow_pos two_pos _)

theorem unpack_table : ∀ k : Fin 23, ∃ pos, Float.exactlyRepresentablePowersOfTen[k].toModel.unpack =
    .finite .positive (10 ^ k.val * 2 ^ 52 / 2 ^ (10 ^ k.val).log2) ((10 ^ k.val).log2 - 52) pos := by
  intro k
  fin_cases k <;> exact ⟨by decide, by rfl⟩

theorem two_pow_log2_dvd : ∀ k : Fin 23, 2 ^ (10 ^ k.val).log2 ∣ 10 ^ k.val * 2 ^ 52 := by
  decide +kernel

theorem unpack_powerOfTen (k : Fin 23) :
    ∃ m e pos, Float.exactlyRepresentablePowersOfTen[k].toModel.unpack = .finite .positive m e pos ∧
      2 ^ 52 ≤ m ∧ (m : ℚ) * 2 ^ e = 10 ^ k.val := by
  obtain ⟨pos, stored⟩ := unpack_table k
  refine ⟨_, _, pos, stored, ?_, ?_⟩
  · rw [Nat.le_div_iff_mul_le (by positivity), mul_comm]
    exact Nat.mul_le_mul_right _ (Nat.log2_self_le (by positivity))
  · rw [Nat.cast_div (two_pow_log2_dvd k) (by positivity), zpow_sub₀ two_ne_zero, zpow_natCast]
    push_cast
    field_simp

theorem scaled_of_rounds {n : Nat} {e : Int} (positive : 0 < n) {m : Nat} {f : Int} (canonical : Canonical m f)
    (rounds : Rounds m f (n * 10 ^ e)) :
    UnpackedFloat.ofScientific Format.binary64 n e = .finite .positive m f canonical.pos := by
  obtain ⟨least, most⟩ := rounds.bounds canonical
  obtain ⟨k, rfl⟩ | ⟨k, rfl⟩ : (∃ k : Nat, e = k) ∨ ∃ k : Nat, e = -(k + 1 : ℕ) := by
    obtain down | up := lt_or_ge e 0
    · exact .inr ⟨(-e - 1).toNat, by omega⟩
    · exact .inl ⟨e.toNat, by omega⟩
  · have one : (1 : ℚ) ≤ n := by exact_mod_cast positive
    have small : k ≤ 1024 := by
      have power : (2 : ℚ) ^ k ≤ 2 ^ 1024 := calc
        (2 : ℚ) ^ k ≤ 10 ^ k := pow_le_pow_left₀ two_pos.le (by norm_num) k
        _ ≤ n * 10 ^ k := le_mul_of_one_le_left (by positivity) one
        _ ≤ 2 ^ 1024 := by exact_mod_cast most
      exact (pow_le_pow_iff_right₀ one_lt_two).mp power
    have widened : n <<< 53 = n * 2 ^ 53 := Nat.shiftLeft_eq n 53
    have wide : 52 ≤ (n <<< 53 * 10 ^ k).log2 := by
      rw [widened, Nat.le_log2 (by positivity)]
      calc
        2 ^ 52 ≤ 1 * 2 ^ 53 * 1 := by decide
        _ ≤ n * 2 ^ 53 * 10 ^ k := Nat.mul_le_mul (Nat.mul_le_mul_right _ positive) (Nat.one_le_pow k 10 (by decide))
    have value : ((n <<< 53 : ℕ) : ℚ) * 2 ^ (-53 : Int) * ((10 ^ k : ℕ) * 2 ^ (0 : Int)) = n * 10 ^ (k : Int) := by
      rw [widened, Nat.cast_mul, Nat.cast_pow, Nat.cast_ofNat, zpow_zero, mul_one, zpow_natCast]
      push_cast
      exact congrArg (· * _) (scaled_back n 53)
    rw [← value] at rounds
    rw [UnpackedFloat.ofScientific, dif_neg positive.ne', if_neg (by norm_num; omega), if_neg (by norm_num; omega),
      if_pos (by omega)]
    exact mul_of_rounds (by rw [widened]; positivity) (by positivity) wide canonical rounds
  · have small : k + 1 < n.log2 + 1 + 1075 := by
      have power : 2 ^ (k + 1) < 2 ^ (n.log2 + 1 + 1075) := calc
        2 ^ (k + 1) ≤ 10 ^ (k + 1) := Nat.pow_le_pow_left (by decide) _
        _ ≤ n * 2 ^ 1075 := by
          rw [zpow_neg, zpow_neg, zpow_natCast, ← div_eq_mul_inv, le_div_iff₀ (by positivity),
            inv_mul_le_iff₀ (by positivity), mul_comm] at least
          exact_mod_cast least
        _ < 2 ^ (n.log2 + 1) * 2 ^ 1075 := Nat.mul_lt_mul_of_pos_right Nat.lt_log2_self (by positivity)
        _ = 2 ^ (n.log2 + 1 + 1075) := (pow_add 2 _ _).symm
      exact (Nat.pow_lt_pow_iff_right one_lt_two).mp power
    have value : (n : ℚ) * 2 ^ (0 : Int) / ((10 ^ (k + 1) : ℕ) * 2 ^ (0 : Int)) = n * 10 ^ (-(k + 1 : ℕ) : Int) := by
      rw [zpow_zero, mul_one, mul_one, zpow_neg, zpow_natCast, div_eq_mul_inv]
      push_cast
      rfl
    rw [← value] at rounds
    have away : (- -((k + 1 : ℕ) : Int)).toNat = k + 1 := by omega
    rw [UnpackedFloat.ofScientific, dif_neg positive.ne', if_neg (by norm_num; omega), if_neg (by norm_num; omega),
      if_neg (by omega)]
    simp only [away]
    exact div_of_rounds positive (by positivity) canonical rounds

theorem ofScientific_of_rounds {n k : Nat} {down : Bool} {m : Nat} {f : Int} (canonical : Canonical m f)
    (rounds : Rounds m f (n * 10 ^ (if down then Int.negOfNat k else Int.ofNat k))) :
    (Float.ofScientific n down k).toModel = Float.Model.pack (.finite .positive m f canonical.pos) := by
  have positive := rounds.digits_pos canonical
  by_cases small : n < 2 ^ 53 ∧ k ≤ 22
  · obtain ⟨m₁, e₁, pos₁, kept, normal, value, -⟩ := unpack_toFloat positive small.1
    obtain ⟨m₂, e₂, pos₂, stored, full, power⟩ := unpack_powerOfTen ⟨k, by omega⟩
    cases down with
    | false =>
        have product : Float.ofScientific n false k =
            n.toUInt64.toFloat * Float.exactlyRepresentablePowersOfTen[(⟨k, by omega⟩ : Fin 23)] := dif_pos small
        have wide : 52 ≤ (m₁ * m₂).log2 := by
          rw [Nat.le_log2 (Nat.mul_ne_zero pos₁.ne' pos₂.ne')]
          exact normal.low.trans (Nat.le_mul_of_pos_right m₁ pos₂)
        have scaled : Rounds m f (m₁ * 2 ^ e₁ * (m₂ * 2 ^ e₂)) := by
          rw [value, power, ← zpow_natCast]
          exact rounds
        rw [product]
        change Float.Model.pack (UnpackedFloat.mul Format.binary64 n.toUInt64.toFloat.toModel.unpack _) = _
        rw [kept, stored, mul_of_rounds pos₁ pos₂ wide canonical scaled]
    | true =>
        have quotient : Float.ofScientific n true k =
            n.toUInt64.toFloat / Float.exactlyRepresentablePowersOfTen[(⟨k, by omega⟩ : Fin 23)] := dif_pos small
        have scaled : Rounds m f (m₁ * 2 ^ e₁ / (m₂ * 2 ^ e₂)) := by
          rw [value, power, div_eq_mul_inv, ← zpow_natCast, ← zpow_neg]
          rwa [if_pos rfl, Int.negOfNat_eq] at rounds
        rw [quotient]
        change Float.Model.pack (UnpackedFloat.div Format.binary64 n.toUInt64.toFloat.toModel.unpack _) = _
        rw [kept, stored, div_of_rounds pos₁ pos₂ canonical scaled]
  · have slow : Float.ofScientific n down k =
        Float.ofModel (Float.Model.ofScientific n (if down then Int.negOfNat k else Int.ofNat k)) :=
      dif_neg small
    rw [slow]
    exact congrArg Float.Model.pack (scaled_of_rounds positive canonical rounds)

theorem lt_pow_digitCount (n : Nat) : n < 10 ^ digitCount n :=
  (Nat.length_toDigits_le_iff (by decide) Nat.length_toDigits_pos).mp le_rfl

theorem pow_digitCount_le {n : Nat} (positive : 0 < n) : 10 ^ (digitCount n - 1) ≤ n := by
  obtain single | several : digitCount n - 1 = 0 ∨ 0 < digitCount n - 1 := by omega
  · rw [single]
    exact positive
  · by_contra more
    have := (Nat.length_toDigits_le_iff (by decide) several).mpr (not_le.mp more)
    rw [← digitCount] at this
    omega

/-- The number that a decimal text spells. -/
def DecimalText.value (d : DecimalText) : ℚ :=
  valueOf (d.whole ++ d.fraction) * 10 ^ (d.exponent - d.fraction.length)

/-- A decimal text whose number is in the interval of a double is read as that double. -/
theorem DecimalText.toFloat_of_rounds {d : DecimalText} {m : Nat} {e : Int} (canonical : Canonical m e)
    (rounds : Rounds m e d.value) : d.toFloat.toModel = Float.Model.pack (.finite .positive m e canonical.pos) := by
  obtain ⟨least, most⟩ := rounds.bounds canonical
  rw [DecimalText.value] at rounds least most
  rw [DecimalText.toFloat]
  simp only [Int.ofNat_eq_natCast]
  generalize valueOf (d.whole ++ d.fraction) = n at *
  generalize d.exponent - d.fraction.length = scale at *
  have positive := rounds.digits_pos canonical
  have low : -400 ≤ scale + digitCount n := by
    by_contra tiny
    refine least.not_gt ?_
    calc
      (n : ℚ) * 10 ^ scale < 10 ^ digitCount n * 10 ^ scale :=
        mul_lt_mul_of_pos_right (by exact_mod_cast lt_pow_digitCount n) (by positivity)
      _ = 10 ^ (digitCount n + scale : Int) := by rw [zpow_add₀ (by norm_num), zpow_natCast]
      _ ≤ 10 ^ (-400 : Int) := zpow_le_zpow_right₀ (by norm_num) (by omega)
      _ ≤ 2 ^ (-1075 : Int) := by
        rw [zpow_neg, zpow_neg]
        exact inv_anti₀ (by positivity) (by exact_mod_cast (by decide +kernel : 2 ^ 1075 ≤ 10 ^ 400))
  have high : scale + digitCount n ≤ 400 := by
    by_contra huge
    have some := Nat.length_toDigits_pos (b := 10) (n := n)
    rw [← digitCount] at some
    refine most.not_gt ?_
    calc
      (2 : ℚ) ^ (1024 : Int) < 10 ^ (400 : Int) := by exact_mod_cast (by decide +kernel : 2 ^ 1024 < 10 ^ 400)
      _ ≤ 10 ^ ((digitCount n - 1 : ℕ) + scale : Int) := zpow_le_zpow_right₀ (by norm_num) (by omega)
      _ = 10 ^ (digitCount n - 1) * 10 ^ scale := by rw [zpow_add₀ (by norm_num), zpow_natCast]
      _ ≤ n * 10 ^ scale := mul_le_mul_of_nonneg_right (by exact_mod_cast pow_digitCount_le positive) (by positivity)
  rw [if_neg (by omega), if_neg (by omega)]
  split
  · rename_i up
    refine ofScientific_of_rounds canonical ?_
    rwa [if_neg Bool.false_ne_true, Int.ofNat_eq_natCast, Int.toNat_of_nonneg up]
  · rename_i down
    refine ofScientific_of_rounds canonical ?_
    rwa [if_pos rfl, Int.negOfNat_eq, Int.ofNat_eq_natCast, Int.toNat_of_nonneg (by omega), neg_neg]

theorem toNat_packComponents (s : Sign) (exponent : BitVec 11) (mantissa : BitVec 52) :
    (packComponents Format.binary64 s exponent mantissa).toNat =
      s.toBitVec.toNat * 2 ^ 63 + exponent.toNat * 2 ^ 52 + mantissa.toNat := by
  have first : (s.toBitVec ++ exponent).toNat = s.toBitVec.toNat * 2 ^ 11 + exponent.toNat := by
    rw [BitVec.toNat_append, ← Nat.shiftLeft_add_eq_or_of_lt exponent.isLt, Nat.shiftLeft_eq]
  have whole : (packComponents Format.binary64 s exponent mantissa).toNat =
      (s.toBitVec ++ exponent).toNat * 2 ^ 52 + mantissa.toNat := by
    rw [← Nat.shiftLeft_eq, Nat.shiftLeft_add_eq_or_of_lt mantissa.isLt]
    exact BitVec.toNat_append ..
  rw [whole, first]
  ring

theorem model_ext {a b : Float.Model} (same : a.toBits.toNat = b.toBits.toNat) : a = b := by
  cases a
  cases b
  simpa [UInt64.toNat_inj] using same

/-- The sign of a double. -/
def signOf (negative : Bool) : Sign :=
  if negative then .negative else .positive

theorem toNat_signOf {bit : Nat} (bound : bit < 2) : (signOf (bit == 1)).toBitVec.toNat = bit := by
  interval_cases bit <;> rfl

theorem pack_least {s : Sign} {m : Nat} (positive : 0 < m) (small : m < 2 ^ 52) :
    UnpackedFloat.pack Format.binary64 (.finite s m (-1074) positive) =
      packComponents Format.binary64 s 0#11 (BitVec.ofNat 52 m) := by
  have least : (-1074 + Format.binary64.exponentBias + (52 : Nat) : Int).toNat = 1 := rfl
  have log2 : m.log2 < 52 := (Nat.log2_lt positive.ne').mpr small
  simp only [UnpackedFloat.pack, least]
  rw [if_neg (by decide), if_neg (by simp only [Format.mantissaBits]; omega)]

theorem toModel_of_finite {x : Float} {negative : Bool} {m : Nat} {e : Int}
    (taken : Binary64.ofFloat x = .finite negative m e) (positive : 0 < m) :
    x.toModel = Float.Model.pack (.finite (signOf negative) m e positive) := by
  apply model_ext
  change x.toBits.toNat = (UnpackedFloat.pack Format.binary64 (.finite (signOf negative) m e positive)).toNat
  have range := x.toBits.toNat_lt
  unfold Binary64.ofFloat at taken
  simp only [Nat.pow_eq, Int.ofNat_eq_natCast] at taken
  split at taken
  · split at taken <;> cases taken
  · rename_i notOnes
    split at taken
    · rename_i zero
      cases taken
      rw [Binary64.leastExponent, pack_least positive (Nat.mod_lt _ (by decide)), toNat_packComponents,
        toNat_signOf (by omega), BitVec.toNat_ofNat, BitVec.toNat_ofNat]
      omega
    · rename_i notZero
      cases taken
      have normal : Normal (2 ^ 52 + x.toBits.toNat % 2 ^ 52) ((x.toBits.toNat / 2 ^ 52 % 2 ^ 11 : ℕ) - 1075) :=
        ⟨by omega, by omega, by omega, by omega⟩
      rw [pack_normal normal positive (sub_add_cancel _ _).symm, toNat_packComponents, toNat_signOf (by omega),
        BitVec.toNat_ofNat, BitVec.toNat_ofNat]
      omega

theorem canonical_of_ofFloat {x : Float} {negative : Bool} {m : Nat} {e : Int}
    (taken : Binary64.ofFloat x = .finite negative m e) (positive : 0 < m) : Canonical m e := by
  unfold Binary64.ofFloat at taken
  simp only [Nat.pow_eq, Int.ofNat_eq_natCast] at taken
  split at taken
  · split at taken <;> cases taken
  · split at taken
    · cases taken
      exact ⟨positive, by omega, le_rfl, by decide, .inr rfl⟩
    · cases taken
      exact ⟨positive, by omega, by omega, by omega, .inl (by omega)⟩

theorem toModel_of_zero {x : Float} {negative : Bool} {e : Int} (taken : Binary64.ofFloat x = .finite negative 0 e) :
    x.toModel = Float.Model.pack (.zero (signOf negative)) := by
  apply model_ext
  change x.toBits.toNat = (packComponents Format.binary64 (signOf negative) 0#11 0#52).toNat
  have range := x.toBits.toNat_lt
  unfold Binary64.ofFloat at taken
  simp only [Nat.pow_eq] at taken
  split at taken
  · split at taken <;> cases taken
  · split at taken
    · injection taken with sign fraction
      rw [toNat_packComponents, ← sign, toNat_signOf (by omega), BitVec.toNat_ofNat, BitVec.toNat_ofNat]
      omega
    · injection taken with sign fraction
      omega

theorem toNat_unpackExponent (x : Float) :
    (@unpackExponent Format.binary64 x.toBits.toBitVec).toNat = x.toBits.toNat / 2 ^ 52 % 2 ^ 11 := by
  rw [unpackExponent, BitVec.toNat_cast, BitVec.extractLsb_toNat, Nat.shiftRight_eq_div_pow]
  rfl

theorem ofFloat_of_unpack {x : Float} {s : Sign} {m : Nat} {e : Int} {pos : 0 < m}
    (kept : x.toModel.unpack = .finite s m e pos) : ∃ negative m e, Binary64.ofFloat x = .finite negative m e := by
  have notOnes : x.toBits.toNat / 2 ^ 52 % 2 ^ 11 ≠ 2047 := by
    intro ones
    have exponent : @unpackExponent Format.binary64 x.toBits.toBitVec = -1#11 :=
      BitVec.eq_of_toNat_eq ((toNat_unpackExponent x).trans ones)
    change UnpackedFloat.unpack Format.binary64 x.toBits.toBitVec = _ at kept
    simp only [UnpackedFloat.unpack] at kept
    rw [if_pos exponent] at kept
    split at kept <;> cases kept
  unfold Binary64.ofFloat
  simp only [Nat.pow_eq]
  rw [if_neg notOnes]
  split
  · exact ⟨_, _, _, rfl⟩
  · exact ⟨_, _, _, rfl⟩

theorem Canonical.unpack_pack {s : Sign} {m : Nat} {e : Int} (canonical : Canonical m e) :
    (Float.Model.pack (.finite s m e canonical.pos)).unpack = .finite s m e canonical.pos := by
  by_cases full : 2 ^ 52 ≤ m
  · exact Number.unpack_pack ⟨full, canonical.high, canonical.least, canonical.most⟩ canonical.pos
  · obtain rfl := canonical.full.resolve_left full
    have small : m < 2 ^ 52 := not_le.mp full
    have kept : (BitVec.ofNat 52 m).toNat = m := by rw [BitVec.toNat_ofNat, Nat.mod_eq_of_lt small]
    have some : BitVec.ofNat 52 m ≠ 0#52 := by
      intro zero
      have := congrArg BitVec.toNat zero
      rw [kept] at this
      exact canonical.pos.ne' this
    have notOnes : 0#11 ≠ -1#11 := by decide
    unfold Float.Model.unpack Float.Model.pack
    simp only [pack_least canonical.pos small, UnpackedFloat.unpack, unpackMantissa_packComponents,
      unpackExponent_packComponents, unpackSign_packComponents, Sign.ofBitVec_toBitVec, notOnes, some, if_false, if_true,
      dite_false, kept]
    rfl

theorem neg_pack {m : Nat} {e : Int} (canonical : Canonical m e) :
    -Float.ofModel (Float.Model.pack (.finite .positive m e canonical.pos)) =
      Float.ofModel (Float.Model.pack (.finite .negative m e canonical.pos)) := by
  change Float.ofModel (Float.Model.pack (Float.Model.pack _).unpack.neg) = _
  rw [canonical.unpack_pack]
  rfl

end Templating.Number
