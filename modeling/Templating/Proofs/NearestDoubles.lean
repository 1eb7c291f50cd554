import Templating.Number.Binary64
import Mathlib

/-! # The double nearest to a whole number

A double keeps 53 binary digits of a number. The double of a whole number of up to 64 bits is therefore the
nearest multiple of a power of two, a tie going to the even multiple, and doubles of this kind compare as
these multiples do.
-/

namespace Templating.Number

open Float.Model Float.Model.UnpackedFloat

/-- The whole number nearest to `n / d`. A tie goes to the even one. -/
def halfEven (n d : Nat) : Nat :=
  match compare (2 * (n % d)) d with
  | .lt => n / d
  | .eq => n / d + n / d % 2
  | .gt => n / d + 1

/-- The distance between neighbouring doubles of the size of `n`, or 1 if it is less. -/
def spacing (n : Nat) : Nat :=
  2 ^ (n.log2 - 52)

/-- The number of 53 binary digits that is nearest to a natural number. -/
def nearestSize (n : Nat) : Nat :=
  halfEven n (spacing n) * spacing n

/-- The number of 53 binary digits that is nearest to a whole number. -/
def nearest (n : Int) : Int :=
  n.sign * nearestSize n.natAbs

theorem le_halfEven (n d : Nat) : n / d ≤ halfEven n d := by
  unfold halfEven
  split <;> omega

theorem halfEven_le (n d : Nat) : halfEven n d ≤ n / d + 1 := by
  unfold halfEven
  split <;> omega

theorem halfEven_one (n : Nat) : halfEven n 1 = n := by
  simp [halfEven, Nat.mod_one, Nat.compare_eq_lt.mpr]

theorem halfEven_mul_right (n d : Nat) {k : Nat} (positive : 0 < k) : halfEven (n * k) (d * k) = halfEven n d := by
  have scaled : compare (2 * (n % d * k)) (d * k) = compare (2 * (n % d)) d := by
    rw [← mul_assoc, Nat.compare_eq_ite_lt, Nat.compare_eq_ite_lt]
    simp only [Nat.mul_lt_mul_right positive]
  simp only [halfEven, Nat.mul_mod_mul_right, Nat.mul_div_mul_right _ _ positive, scaled]

theorem halfEven_mono {m n : Nat} (d : Nat) (atMost : m ≤ n) : halfEven m d ≤ halfEven n d := by
  obtain earlier | same := (Nat.div_le_div_right (c := d) atMost).lt_or_eq
  · exact (halfEven_le m d).trans (earlier.trans_le (le_halfEven n d))
  · -- With equal quotients the remainders are in order.
    have rests : m % d ≤ n % d := by
      have left := Nat.div_add_mod m d
      have right := Nat.div_add_mod n d
      rw [same] at left
      omega
    unfold halfEven
    rw [same]
    split <;> rename_i left <;> split <;> rename_i right <;>
      simp only [Nat.compare_eq_lt, Nat.compare_eq_gt, Nat.compare_eq_eq] at left right <;> omega

theorem halfEven_digits {m k : Nat} (digits : m.log2 = 52 + k) :
    2 ^ 52 ≤ halfEven m (2 ^ k) ∧ halfEven m (2 ^ k) ≤ 2 ^ 53 := by
  have positive : 0 < 2 ^ k := Nat.two_pow_pos k
  have nonzero : m ≠ 0 := by
    rintro rfl
    rw [Nat.log2_zero] at digits
    omega
  constructor
  · refine le_trans ?_ (le_halfEven m (2 ^ k))
    rw [Nat.le_div_iff_mul_le positive, ← pow_add, ← digits]
    exact Nat.log2_self_le nonzero
  · refine (halfEven_le m (2 ^ k)).trans (Nat.succ_le_of_lt ?_)
    rw [Nat.div_lt_iff_lt_mul positive, ← pow_add, show 53 + k = m.log2 + 1 by omega]
    exact Nat.lt_log2_self

theorem nearestSize_of_full {n : Nat} (full : n.log2 ≤ 52) : nearestSize n = n := by
  have unit : spacing n = 1 := by rw [spacing, Nat.sub_eq_zero_of_le full, pow_zero]
  rw [nearestSize, unit, halfEven_one, mul_one]

theorem nearestSize_bounds {n : Nat} (nonzero : n ≠ 0) :
    2 ^ n.log2 ≤ nearestSize n ∧ nearestSize n ≤ 2 ^ (n.log2 + 1) := by
  obtain full | ⟨k, digits⟩ : n.log2 ≤ 52 ∨ ∃ k, n.log2 = 52 + k := by
    by_cases full : n.log2 ≤ 52
    · exact .inl full
    · exact .inr ⟨n.log2 - 52, by omega⟩
  · rw [nearestSize_of_full full]
    exact ⟨Nat.log2_self_le nonzero, Nat.lt_log2_self.le⟩
  · obtain ⟨low, high⟩ := halfEven_digits digits
    rw [nearestSize, spacing, digits, Nat.add_sub_cancel_left, pow_add, show 52 + k + 1 = 53 + k by omega, pow_add]
    exact ⟨Nat.mul_le_mul_right _ low, Nat.mul_le_mul_right _ high⟩

theorem nearestSize_mono {m n : Nat} (atMost : m ≤ n) : nearestSize m ≤ nearestSize n := by
  obtain rfl | nonzero := eq_or_ne m 0
  · exact Nat.zero_le _
  obtain shorter | same : m.log2 < n.log2 ∨ m.log2 = n.log2 := by
    have := (Nat.le_log2 (by omega : n ≠ 0)).mpr ((Nat.log2_self_le nonzero).trans atMost)
    omega
  · calc
      nearestSize m ≤ 2 ^ (m.log2 + 1) := (nearestSize_bounds nonzero).2
      _ ≤ 2 ^ n.log2 := Nat.pow_le_pow_right (by decide) shorter
      _ ≤ nearestSize n := (nearestSize_bounds (by omega)).1
  · have spaced : spacing m = spacing n := by rw [spacing, spacing, same]
    rw [nearestSize, nearestSize, spaced]
    exact Nat.mul_le_mul_right _ (halfEven_mono _ atMost)

theorem log2_mul_two_pow {n : Nat} (nonzero : n ≠ 0) (k : Nat) : (n * 2 ^ k).log2 = n.log2 + k := by
  rw [Nat.log2_eq_iff (Nat.mul_ne_zero nonzero (Nat.two_pow_pos k).ne')]
  constructor
  · rw [pow_add]
    exact Nat.mul_le_mul_right _ (Nat.log2_self_le nonzero)
  · rw [show n.log2 + k + 1 = n.log2 + 1 + k by omega, pow_add]
    exact Nat.mul_lt_mul_of_pos_right Nat.lt_log2_self (Nat.two_pow_pos k)

theorem nearestSize_mul_two_pow {n : Nat} (wide : 52 ≤ n.log2) (k : Nat) :
    nearestSize (n * 2 ^ k) = nearestSize n * 2 ^ k := by
  have nonzero : n ≠ 0 := by
    rintro rfl
    simp at wide
  have spaced : spacing (n * 2 ^ k) = spacing n * 2 ^ k := by
    rw [spacing, spacing, log2_mul_two_pow nonzero, ← pow_add]
    congr 1
    omega
  rw [nearestSize, nearestSize, spaced, halfEven_mul_right _ _ (Nat.two_pow_pos k), mul_assoc]

theorem nearestSize_of_small {n : Nat} (small : n ≤ 2 ^ 53) : nearestSize n = n := by
  obtain below | rfl := small.lt_or_eq
  · obtain rfl | nonzero := eq_or_ne n 0
    · rfl
    · exact nearestSize_of_full (Nat.lt_succ_iff.mp ((Nat.log2_lt nonzero).mpr below))
  · have log2 : (2 ^ 52).log2 = 52 := Nat.log2_two_pow
    rw [pow_succ, ← pow_one 2, ← pow_mul, one_mul, nearestSize_mul_two_pow log2.ge 1, nearestSize_of_full log2.le]

theorem nearest_natCast (n : Nat) : nearest n = nearestSize n := by
  obtain rfl | positive := Nat.eq_zero_or_pos n
  · rfl
  · rw [nearest, Int.sign_natCast_of_ne_zero positive.ne', one_mul, Int.natAbs_natCast]

theorem nearest_neg (n : Int) : nearest (-n) = -nearest n := by
  rw [nearest, nearest, Int.sign_neg, Int.natAbs_neg, neg_mul]

theorem nearest_mono {a b : Int} (atMost : a ≤ b) : nearest a ≤ nearest b := by
  obtain ⟨m, rfl | rfl⟩ := Int.eq_nat_or_neg a <;> obtain ⟨n, rfl | rfl⟩ := Int.eq_nat_or_neg b <;>
    simp only [nearest_neg, nearest_natCast]
  · exact_mod_cast nearestSize_mono (by omega)
  · obtain ⟨rfl, rfl⟩ : m = 0 ∧ n = 0 := by omega
    rfl
  · omega
  · have := nearestSize_mono (m := n) (n := m) (by omega)
    omega

theorem nearest_eq_zero_iff (n : Int) : nearest n = 0 ↔ n = 0 := by
  constructor
  · intro none
    by_contra nonzero
    have positive := (Nat.two_pow_pos _).trans_le (nearestSize_bounds (Int.natAbs_ne_zero.mpr nonzero)).1
    obtain unsigned | unsized := mul_eq_zero.mp none
    · exact nonzero (Int.sign_eq_zero_iff_zero.mp unsigned)
    · omega
  · rintro rfl
    rfl

theorem nearest_of_small {n : Int} (small : n.natAbs ≤ 2 ^ 53) : nearest n = n := by
  rw [nearest, nearestSize_of_small small, Int.sign_mul_natAbs]

theorem shiftRight_succ (em : ExtendedMantissa) (k : Nat) : em >>> (k + 1) = (em >>> k).shiftRightOne := rfl

/-- Shifting right divides the mantissa, keeps the highest digit that it drops and whether there were more. -/
theorem shiftRight_exact (m k : Nat) :
    ExtendedMantissa.ofMantissaAndAccuracy m .exact >>> (k + 1) =
      ⟨m / 2 ^ (k + 1), m / 2 ^ k % 2 != 0, m % 2 ^ k != 0⟩ := by
  induction k with
  | zero =>
    simp [ExtendedMantissa.ofMantissaAndAccuracy, HShiftRight.hShiftRight, Nat.repeat, ExtendedMantissa.shiftRightOne,
      Nat.mod_one]
  | succ k ih =>
    rw [shiftRight_succ, ih]
    simp only [ExtendedMantissa.shiftRightOne, ExtendedMantissa.mk.injEq, Nat.div_div_eq_div_mul, ← pow_succ,
      true_and]
    have split := Nat.mod_mul (x := m) (a := 2 ^ k) (b := 2)
    rw [← pow_succ] at split
    have positive : 0 < 2 ^ k := Nat.two_pow_pos k
    rw [Bool.eq_iff_iff]
    simp only [Bool.or_eq_true, bne_iff_ne, ne_eq, split, Nat.add_eq_zero_iff, mul_eq_zero]
    omega

theorem roundedMantissa_shiftRight (m k : Nat) :
    (ExtendedMantissa.ofMantissaAndAccuracy m .exact >>> k).roundedMantissa = halfEven m (2 ^ k) := by
  cases k with
  | zero => rw [pow_zero, halfEven_one]; rfl
  | succ k =>
    have split := Nat.mod_mul (x := m) (a := 2 ^ k) (b := 2)
    rw [← pow_succ] at split
    have rest : m % 2 ^ k < 2 ^ k := Nat.mod_lt _ (Nat.two_pow_pos k)
    rw [shiftRight_exact, halfEven, split, ExtendedMantissa.roundedMantissa]
    obtain even | odd : m / 2 ^ k % 2 = 0 ∨ m / 2 ^ k % 2 = 1 := by omega
    · rw [even, Nat.compare_eq_lt.mpr (by omega)]
      cases m % 2 ^ k != 0 <;> rfl
    · by_cases whole : m % 2 ^ k = 0
      · rw [odd, Nat.compare_eq_eq.mpr (by omega), whole]
        rfl
      · rw [odd, Nat.compare_eq_gt.mpr (by omega), bne_iff_ne.mpr whole]
        rfl

/-- `m * 2 ^ e` is how a double of full precision is written: with 53 digits, and an exponent that doubles have. -/
structure Normal (m : Nat) (e : Int) : Prop where
  low : 2 ^ 52 ≤ m
  high : m < 2 ^ 53
  least : -1074 ≤ e
  most : e ≤ 971

theorem Normal.pos {m : Nat} {e : Int} (normal : Normal m e) : 0 < m :=
  (Nat.two_pow_pos 52).trans_le normal.low

theorem Normal.log2_eq {m : Nat} {e : Int} (normal : Normal m e) : m.log2 = 52 :=
  (Nat.log2_eq_iff normal.pos.ne').mpr ⟨normal.low, normal.high⟩

theorem targetExponent_binary64 (m : Nat) (e : Int) :
    Format.binary64.targetExponent (totalExponent m e) = max (m.log2 + e - 52) (-1074) := by
  simp [Format.targetExponent, totalExponent, Format.mantissaBits, Format.minExponent]
  omega

theorem shiftToTargetExponent_wide {m : Nat} {e : Int} (wide : 52 ≤ m.log2) (least : -1074 ≤ e) :
    shiftToTargetExponent Format.binary64 m e .exact =
      (ExtendedMantissa.ofMantissaAndAccuracy m .exact >>> (m.log2 - 52), e + ↑(m.log2 - 52)) := by
  have shift : (max (m.log2 + e - 52) (-1074) - e).toNat = m.log2 - 52 := by omega
  rw [shiftToTargetExponent, targetExponent_binary64, shiftToExponent, shift]

theorem shiftToTargetExponent_full {m : Nat} {e : Int} (full : m.log2 = 52) (least : -1074 ≤ e) :
    shiftToTargetExponent Format.binary64 m e .exact = (⟨m, false, false⟩, e) := by
  rw [shiftToTargetExponent_wide full.ge least, full]
  exact Prod.ext rfl (add_zero e)

theorem shiftToTargetExponent_carried {e : Int} (least : -1074 ≤ e) :
    shiftToTargetExponent Format.binary64 (2 ^ 53) e .exact = (⟨2 ^ 52, false, false⟩, e + 1) := by
  have log2 : (2 ^ 53).log2 = 53 := Nat.log2_two_pow
  rw [shiftToTargetExponent_wide (by rw [log2]; decide) least, log2]
  rfl

theorem roundWithAccuracy_finite {spec : Format} (s : Sign) {m m₁ m₂ : Nat} {e e₁ e₂ : Int}
    {em : ExtendedMantissa} {accuracy : Accuracy} (first : shiftToTargetExponent spec m e accuracy = (em, e₁))
    (rounded : em.roundedMantissa = m₁)
    (second : shiftToTargetExponent spec m₁ e₁ .exact = (⟨m₂, false, false⟩, e₂)) (positive : 0 < m₂) :
    roundWithAccuracy spec s m e accuracy = .finite s m₂ e₂ positive := by
  simp only [roundWithAccuracy, first, rounded, second, dif_neg positive.ne']

theorem roundWithAccuracy_full (s : Sign) {m : Nat} {e : Int} (full : m.log2 = 52) (least : -1074 ≤ e) (pos : 0 < m) :
    roundWithAccuracy Format.binary64 s m e .exact = .finite s m e pos :=
  roundWithAccuracy_finite s (shiftToTargetExponent_full full least) rfl (shiftToTargetExponent_full full least) pos

theorem roundWithAccuracy_wide (s : Sign) {m : Nat} {e : Int} (wide : 52 ≤ m.log2) (least : -1074 ≤ e)
    (most : e + m.log2 ≤ 1022) :
    ∃ (m' : Nat) (e' : Int) (positive : 0 < m'),
      roundWithAccuracy Format.binary64 s m e .exact = .finite s m' e' positive ∧
        Normal m' e' ∧ (m' : ℚ) * 2 ^ e' = ↑(nearestSize m) * 2 ^ e := by
  obtain ⟨k, digits⟩ : ∃ k, m.log2 = 52 + k := ⟨m.log2 - 52, by omega⟩
  have spaced : spacing m = 2 ^ k := by rw [spacing, digits, Nat.add_sub_cancel_left]
  obtain ⟨low, high⟩ := halfEven_digits digits
  have first := shiftToTargetExponent_wide wide least
  simp only [digits, Nat.add_sub_cancel_left] at first
  rw [nearestSize, spaced]
  have rounded := roundedMantissa_shiftRight m k
  obtain below | carried := high.lt_or_eq
  · have full : (halfEven m (2 ^ k)).log2 = 52 := (Nat.log2_eq_iff (by omega)).mpr ⟨low, below⟩
    have second := shiftToTargetExponent_full full (e := e + k) (by omega)
    refine ⟨_, _, _, roundWithAccuracy_finite s first rounded second (by omega),
      ⟨low, below, by omega, by omega⟩, ?_⟩
    push_cast
    rw [zpow_add₀ (by norm_num), zpow_natCast]
    ring
  · have second := shiftToTargetExponent_carried (e := e + k) (by omega)
    refine ⟨_, _, _, roundWithAccuracy_finite s first (rounded.trans carried) second (by decide),
      ⟨le_rfl, by decide, by omega, by omega⟩, ?_⟩
    rw [carried]
    push_cast
    rw [zpow_add₀ (by norm_num), zpow_add₀ (by norm_num), zpow_natCast]
    ring

/-- The leading digit of a double of full precision is left out when packing. -/
theorem pack_normal {s : Sign} {m : Nat} {e : Int} (normal : Normal m e) (positive : 0 < m) {biased : Nat}
    (stored : (biased : Int) = e + 1075) :
    UnpackedFloat.pack Format.binary64 (.finite s m e positive) =
      packComponents Format.binary64 s (BitVec.ofNat 11 biased) (BitVec.ofNat 52 m) := by
  have most := normal.most
  have bias : (Format.binary64.exponentBias : Int) = 1023 := rfl
  have exponent : (e + Format.binary64.exponentBias + (52 : Nat)).toNat = biased := by omega
  simp only [UnpackedFloat.pack, exponent, normal.log2_eq]
  rw [if_neg (by norm_num; omega), if_pos (by rfl)]

theorem unpack_pack {s : Sign} {m : Nat} {e : Int} (normal : Normal m e) (positive : 0 < m) :
    (Float.Model.pack (.finite s m e positive)).unpack = .finite s m e positive := by
  have least := normal.least
  have most := normal.most
  obtain ⟨biased, stored⟩ : ∃ biased : Nat, (biased : Int) = e + 1075 :=
    ⟨(e + 1075).toNat, Int.toNat_of_nonneg (by omega)⟩
  have kept : (BitVec.ofNat 11 biased).toNat = biased := by
    rw [BitVec.toNat_ofNat, Nat.mod_eq_of_lt (by omega)]
  have notOnes : BitVec.ofNat 11 biased ≠ -1#11 := by
    intro ones
    have := congrArg BitVec.toNat ones
    rw [kept] at this
    simp at this
    omega
  have notZero : BitVec.ofNat 11 biased ≠ 0#11 := by
    intro zero
    have := congrArg BitVec.toNat zero
    rw [kept] at this
    simp at this
    omega
  -- The leading digit is left out when packing and comes back when unpacking.
  have digits : (1#1 ++ BitVec.ofNat 52 m).toNat = m := by
    have low := normal.low
    have high := normal.high
    rw [BitVec.toNat_append, ← Nat.shiftLeft_add_eq_or_of_lt (BitVec.ofNat 52 m).isLt, BitVec.toNat_ofNat,
      Nat.shiftLeft_eq]
    simp
    omega
  unfold Float.Model.unpack Float.Model.pack
  simp only [pack_normal normal positive stored, UnpackedFloat.unpack, unpackMantissa_packComponents,
    unpackExponent_packComponents, unpackSign_packComponents, Sign.ofBitVec_toBitVec, notOnes, notZero, if_false, kept, digits]
  have bias : (Format.binary64.exponentBias : Int) = 1023 := rfl
  congr 1
  omega

/-- A double of full precision, or a zero, stands for a whole number. -/
inductive Denotes : UnpackedFloat → Int → Prop where
  | zero (s : Sign) : Denotes (.zero s) 0
  | positive {m v : Nat} {e : Int} (pos : 0 < m) (normal : Normal m e) (value : (m : ℚ) * 2 ^ e = v) :
      Denotes (.finite .positive m e pos) v
  | negative {m v : Nat} {e : Int} (pos : 0 < m) (normal : Normal m e) (value : (m : ℚ) * 2 ^ e = v) :
      Denotes (.finite .negative m e pos) (-v)

theorem pos_of_value {m v : Nat} {e : Int} (pos : 0 < m) (value : (m : ℚ) * 2 ^ e = v) : 0 < v := by
  have : (0 : ℚ) < v := value ▸ mul_pos (by exact_mod_cast pos) (zpow_pos (by norm_num) e)
  exact_mod_cast this

theorem lt_of_exponent_lt {m m' v v' : Nat} {e e' : Int} (normal : Normal m e) (normal' : Normal m' e')
    (value : (m : ℚ) * 2 ^ e = v) (value' : (m' : ℚ) * 2 ^ e' = v') (smaller : e < e') : v < v' := by
  have high : (m : ℚ) < 2 ^ 53 := by exact_mod_cast normal.high
  have low : (2 ^ 52 : ℚ) ≤ m' := by exact_mod_cast normal'.low
  have chain : (v : ℚ) < v' := calc
    (v : ℚ) = m * 2 ^ e := value.symm
    _ < 2 ^ 53 * 2 ^ e := mul_lt_mul_of_pos_right high (zpow_pos (by norm_num) e)
    _ = 2 ^ 52 * 2 ^ (e + 1) := by rw [zpow_add₀ (by norm_num)]; ring
    _ ≤ 2 ^ 52 * 2 ^ e' := mul_le_mul_of_nonneg_left (zpow_le_zpow_right₀ (by norm_num) smaller) (by norm_num)
    _ ≤ m' * 2 ^ e' := mul_le_mul_of_nonneg_right low (zpow_nonneg (by norm_num) e')
    _ = v' := value'
  exact_mod_cast chain

theorem compare_normal {m m' v v' : Nat} {e e' : Int} (normal : Normal m e) (normal' : Normal m' e')
    (value : (m : ℚ) * 2 ^ e = v) (value' : (m' : ℚ) * 2 ^ e' = v') :
    (compare e e').then (compare m m') = compare (v : Int) v' := by
  obtain smaller | rfl | larger := lt_trichotomy e e'
  · have before : (v : Int) < v' := by exact_mod_cast lt_of_exponent_lt normal normal' value value' smaller
    rw [compare_lt_iff_lt.mpr smaller, compare_lt_iff_lt.mpr before]
    rfl
  · have unit : (0 : ℚ) < 2 ^ e := zpow_pos (by norm_num) e
    have scaled : (m < m' ↔ v < v') ∧ (m = m' ↔ v = v') := by
      constructor
      · have order : (v : ℚ) < v' ↔ v < v' := Nat.cast_lt
        rw [← order, ← value, ← value', mul_lt_mul_iff_left₀ unit, Nat.cast_lt]
      · have same : (v : ℚ) = v' ↔ v = v' := Nat.cast_inj
        rw [← same, ← value, ← value', mul_left_inj' unit.ne', Nat.cast_inj]
    rw [compare_eq_iff_eq.mpr rfl, Ordering.eq_then]
    obtain less | same | more := lt_trichotomy m m'
    · rw [compare_lt_iff_lt.mpr less, compare_lt_iff_lt.mpr (by exact_mod_cast scaled.1.mp less)]
    · rw [compare_eq_iff_eq.mpr same, compare_eq_iff_eq.mpr (by exact_mod_cast scaled.2.mp same)]
    · rw [compare_gt_iff_gt.mpr more, compare_gt_iff_gt.mpr]
      have : ¬ v < v' ∧ ¬ v = v' := ⟨scaled.1.not.mp more.not_gt, scaled.2.not.mp more.ne'⟩
      omega
  · have after : (v' : Int) < v := by exact_mod_cast lt_of_exponent_lt normal' normal value' value larger
    rw [compare_gt_iff_gt.mpr larger, compare_gt_iff_gt.mpr after]
    rfl

theorem compare_neg (a b : Int) : compare (-a) (-b) = (compare a b).swap := by
  obtain less | rfl | more := lt_trichotomy a b
  · rw [compare_lt_iff_lt.mpr less, compare_gt_iff_gt.mpr (by omega)]
    rfl
  · rw [compare_eq_iff_eq.mpr rfl, compare_eq_iff_eq.mpr rfl]
    rfl
  · rw [compare_gt_iff_gt.mpr more, compare_lt_iff_lt.mpr (by omega)]
    rfl

theorem Denotes.compare {x y : UnpackedFloat} {v w : Int} (left : Denotes x v) (right : Denotes y w) :
    x.compare y = some (Ord.compare v w) := by
  cases left with
  | zero =>
    cases right with
    | zero => rfl
    | positive pos normal value =>
      have := pos_of_value pos value
      rw [compare_lt_iff_lt.mpr (by omega)]
      rfl
    | negative pos normal value =>
      have := pos_of_value pos value
      rw [compare_gt_iff_gt.mpr (by omega)]
      rfl
  | positive pos normal value =>
    have := pos_of_value pos value
    cases right with
    | zero => rw [compare_gt_iff_gt.mpr (by omega)]; rfl
    | positive pos' normal' value' => rw [← compare_normal normal normal' value value']; rfl
    | negative pos' => rw [compare_gt_iff_gt.mpr (by omega)]; rfl
  | negative pos normal value =>
    have := pos_of_value pos value
    cases right with
    | zero => rw [compare_lt_iff_lt.mpr (by omega)]; rfl
    | positive pos' => rw [compare_lt_iff_lt.mpr (by omega)]; rfl
    | negative pos' normal' value' =>
      change some ((Ord.compare _ _).then (Ord.compare _ _)).swap = _
      rw [compare_normal normal normal' value value', compare_neg]

theorem scaled_back (x : ℚ) (k : Nat) : x * 2 ^ k * 2 ^ (-k : Int) = x := by
  rw [zpow_neg, zpow_natCast]
  exact mul_inv_cancel_right₀ (by positivity) x

theorem unpack_toFloat {n : Nat} (positive : 0 < n) (full : n < 2 ^ 53) :
    ∃ m e pos, n.toUInt64.toFloat.toModel.unpack = .finite .positive m e pos ∧ Normal m e ∧
      (m : ℚ) * 2 ^ e = n ∧ -52 ≤ e ∧ e ≤ 0 := by
  have log2 : n.log2 ≤ 52 := Nat.lt_succ_iff.mp ((Nat.log2_lt positive.ne').mpr full)
  obtain ⟨k, filled⟩ : ∃ k, n.log2 + k = 52 := ⟨52 - n.log2, by omega⟩
  have kept : n.toUInt64.toNat = n := by
    rw [Nat.toUInt64, UInt64.toNat_ofNat', Nat.mod_eq_of_lt (by omega)]
  have widened : UnpackedFloat.ofUInt64 Format.binary64 n.toUInt64 =
      roundWithAccuracy Format.binary64 .positive (n * 2 ^ k) (-k) .exact := by
    have down : (-max (n.log2 + 0 - 52 : Int) (-1074)).toNat = k := by omega
    rw [UnpackedFloat.ofUInt64, UnpackedFloat.ofNat, UnpackedFloat.ofInt, kept, UnpackedFloat.normalize,
      compare_gt_iff_gt.mpr (by omega)]
    simp only [UnpackedFloat.round, Int.toNat_natCast, targetExponent_binary64,
      UnpackedFloat.decreaseExponent, zero_sub, down, Nat.shiftLeft_eq]
  have wide : (n * 2 ^ k).log2 = 52 := by rw [log2_mul_two_pow positive.ne', filled]
  have pos : 0 < n * 2 ^ k := Nat.mul_pos positive (Nat.two_pow_pos k)
  have range := (Nat.log2_eq_iff pos.ne').mp wide
  have normal : Normal (n * 2 ^ k) (-k) := ⟨range.1, range.2, by omega, by omega⟩
  refine ⟨n * 2 ^ k, -k, pos, ?_, normal, ?_, by omega, by omega⟩
  · change (Float.Model.pack (UnpackedFloat.ofUInt64 Format.binary64 n.toUInt64)).unpack = _
    rw [widened, roundWithAccuracy_full .positive wide (by omega) pos, unpack_pack normal]
  · push_cast
    exact scaled_back n k

/-- The double of a positive number of at most 64 bits is the nearest number of 53 digits. -/
theorem unpack_ofNat {n : Nat} (positive : 0 < n) (bound : n < 2 ^ 64) :
    ∃ m e pos, (Float.ofNat n).toModel.unpack = .finite .positive m e pos ∧ Normal m e ∧
      (m : ℚ) * 2 ^ e = nearestSize n := by
  by_cases full : n < 2 ^ 53
  · obtain ⟨m, e, pos, kept, normal, value, least, most⟩ := unpack_toFloat positive full
    have one : (Float.ofBits 0x3FF0000000000000).toModel.unpack = .finite .positive (2 ^ 52) (-52) (by decide) := by rfl
    have log2 : (m * 2 ^ 52).log2 = 104 := by rw [log2_mul_two_pow pos.ne', normal.log2_eq]
    obtain ⟨m', e', pos', rounded, normal', value'⟩ :=
      roundWithAccuracy_wide .positive (m := m * 2 ^ 52) (e := e + -52) (by omega) (by omega) (by omega)
    refine ⟨m', e', pos', ?_, normal', ?_⟩
    · have product : Float.ofNat n = n.toUInt64.toFloat * Float.ofBits 0x3FF0000000000000 :=
        dif_pos ⟨full, by decide⟩
      rw [product]
      change (Float.Model.pack (UnpackedFloat.mul Format.binary64 n.toUInt64.toFloat.toModel.unpack
        (Float.ofBits 0x3FF0000000000000).toModel.unpack)).unpack = _
      rw [kept, one]
      change (Float.Model.pack (roundWithAccuracy Format.binary64 .positive (m * 2 ^ 52) (e + -52) .exact)).unpack = _
      rw [rounded, unpack_pack normal']
    · have log2' : n.log2 ≤ 52 := Nat.lt_succ_iff.mp ((Nat.log2_lt positive.ne').mpr full)
      rw [value', nearestSize_mul_two_pow normal.log2_eq.ge, nearestSize_of_full normal.log2_eq.le,
        nearestSize_of_full log2', ← value, zpow_add₀ (by norm_num), ← scaled_back (m * 2 ^ e) 52]
      push_cast
      ring
  · have wide : 53 ≤ n.log2 := (Nat.le_log2 positive.ne').mpr (by omega)
    have log2 : (n * 2 ^ 53).log2 = n.log2 + 53 := log2_mul_two_pow positive.ne' 53
    have short : n.log2 < 64 := (Nat.log2_lt positive.ne').mpr bound
    obtain ⟨m, e, pos, rounded, normal, value⟩ :=
      roundWithAccuracy_wide .positive (m := n * 2 ^ 53) (e := -53) (by omega) (by omega) (by omega)
    refine ⟨m, e, pos, ?_, normal, ?_⟩
    · have slow : Float.ofNat n = Float.ofModel (Float.Model.ofScientific n 0) := dif_neg fun fast => full fast.1
      have product : UnpackedFloat.ofScientific Format.binary64 n 0 =
          roundWithAccuracy Format.binary64 .positive (n * 2 ^ 53) (-53) .exact := by
        have small : ¬ (0 : Int) < -(2 ^ Format.binary64.exponentBits + n.log2) := by norm_num
        rw [UnpackedFloat.ofScientific, dif_neg positive.ne', if_neg (by decide), if_neg small, if_pos (by decide)]
        change roundWithAccuracy Format.binary64 .positive (n <<< 53 * 1) (-53 + 0) .exact = _
        rw [Nat.shiftLeft_eq, mul_one, add_zero]
      rw [slow]
      change (Float.Model.pack (UnpackedFloat.ofScientific Format.binary64 n 0)).unpack = _
      rw [product, rounded, unpack_pack normal]
    · rw [value, nearestSize_mul_two_pow (by omega)]
      push_cast
      exact scaled_back _ 53

theorem unpack_neg {x : Float} {m : Nat} {e : Int} {pos : 0 < m} (kept : x.toModel.unpack = .finite .positive m e pos)
    (normal : Normal m e) : x.neg.toModel.unpack = .finite .negative m e pos := by
  change (Float.Model.pack x.toModel.unpack.neg).unpack = _
  rw [kept]
  exact unpack_pack normal pos

/-- The double of a whole number of at most 64 bits stands for the nearest number of 53 digits. -/
theorem denotes_ofInt {n : Int} (bound : n.natAbs < 2 ^ 64) : Denotes (Float.ofInt n).toModel.unpack (nearest n) := by
  obtain ⟨size, rfl | rfl⟩ := Int.eq_nat_or_neg n
  · obtain rfl | positive := Nat.eq_zero_or_pos size
    · exact .zero .positive
    · obtain ⟨m, e, pos, kept, normal, value⟩ := unpack_ofNat positive (by simpa using bound)
      change Denotes (Float.ofNat size).toModel.unpack _
      rw [kept, nearest_natCast]
      exact .positive pos normal value
  · obtain rfl | positive := Nat.eq_zero_or_pos size
    · exact .zero .positive
    · obtain ⟨m, e, pos, kept, normal, value⟩ := unpack_ofNat positive (by simpa using bound)
      obtain ⟨before, rfl⟩ := Nat.exists_eq_succ_of_ne_zero positive.ne'
      change Denotes (Float.ofNat before.succ).neg.toModel.unpack _
      rw [unpack_neg kept normal, nearest_neg, nearest_natCast]
      exact .negative pos normal value

theorem floatOfWord_denotes (n : Int64) : Denotes (floatOfWord n).toModel.unpack (nearest n.toInt) := by
  have low := n.le_toInt
  have high := n.toInt_lt
  exact denotes_ofInt (by omega)

theorem compare_floatOfWord (a b : Int64) :
    (floatOfWord a).toModel.unpack.compare (floatOfWord b).toModel.unpack =
      some (compare (nearest a.toInt) (nearest b.toInt)) :=
  (floatOfWord_denotes a).compare (floatOfWord_denotes b)

/-- The double of one word is less than that of another if the nearest numbers are in that order. -/
theorem floatOfWord_lt_iff (a b : Int64) : floatOfWord a < floatOfWord b ↔ nearest a.toInt < nearest b.toInt := by
  change decide ((UnpackedFloat.compare _ _ == some .lt) = true) = true ↔ _
  rw [decide_eq_true_iff, compare_floatOfWord, beq_iff_eq, Option.some_inj, compare_lt_iff_lt]

/-- The doubles of two words are equal if the nearest numbers are. -/
theorem floatOfWord_beq_iff (a b : Int64) :
    (floatOfWord a == floatOfWord b) = true ↔ nearest a.toInt = nearest b.toInt := by
  change (UnpackedFloat.compare _ _ == some .eq) = true ↔ _
  rw [compare_floatOfWord, beq_iff_eq, Option.some_inj, compare_eq_iff_eq]

theorem floatOfWord_beq_zero_iff (n : Int64) : (floatOfWord n == 0.0) = true ↔ n.toInt = 0 := by
  have zero : (0.0 : Float).toModel.unpack = .zero .positive := by rfl
  change (UnpackedFloat.compare _ (0.0 : Float).toModel.unpack == some .eq) = true ↔ _
  rw [zero, (floatOfWord_denotes n).compare (.zero .positive), beq_iff_eq, Option.some_inj, compare_eq_iff_eq,
    nearest_eq_zero_iff]

end Templating.Number
