import Templating.Proofs.IntegerOperators
import Templating.Proofs.Outcome

/-! # Ranges of whole numbers

A range goes through 64-bit numbers with a checked addition, yet its items are those of the unbounded progression: the
`k`-th one is the start and `k` steps, for as long as that lies between the two ends. An addition that does not fit comes
only behind the last item. What the items are at every position determines a list, so the operator for ranges, which
counts up from the lower end, agrees with the function, which goes step by step.
-/

namespace Templating

/-- Whether `n` lies between the ends of a range that goes from `start` to `stop` in the direction of `step`. -/
def Between (start stop step n : Int) : Prop :=
  0 < step ∧ start ≤ n ∧ n ≤ stop ∨ step < 0 ∧ stop ≤ n ∧ n ≤ start

instance (start stop step n : Int) : Decidable (Between start stop step n) :=
  inferInstanceAs (Decidable (_ ∨ _))

/-- The items of a range: at position `k` stands `start + k * step`, if that lies between the ends, and else nothing. -/
def RangeItems (start stop step : Int) (items : List Int64) : Prop :=
  ∀ (k : Nat) (n : Int64), items[k]? = some n ↔ n.toInt = start + k * step ∧ Between start stop step (start + k * step)

section

variable {start stop step : Int}

theorem RangeItems.unique {items others : List Int64} (left : RangeItems start stop step items)
    (right : RangeItems start stop step others) : items = others := by
  refine List.ext_getElem? fun k => Option.ext fun n => ?_
  exact (left k n).trans (right k n).symm

theorem RangeItems.nil (beyond : ¬ Between start stop step start) : RangeItems start stop step [] := by
  intro k n
  refine iff_of_false nofun fun item => beyond ?_
  rcases item.2 with ⟨upward, -, below⟩ | ⟨downward, above, -⟩
  · have forward : 0 ≤ k * step := by positivity
    exact .inl ⟨upward, le_rfl, by omega⟩
  · have backward : k * step ≤ 0 := mul_nonpos_of_nonneg_of_nonpos (by positivity) downward.le
    exact .inr ⟨downward, by omega, le_rfl⟩

/-- The items of a range behind its first one are those of the range that starts one step later. -/
theorem between_next (k : Nat) :
    Between start stop step (start + (k + 1 : Nat) * step) ↔
      Between (start + step) stop step (start + step + k * step) := by
  have later : start + (k + 1 : Nat) * step = start + step + k * step := by
    push_cast
    ring
  rw [later]
  constructor
  · rintro (⟨upward, -, below⟩ | ⟨downward, above, -⟩)
    · exact .inl ⟨upward, le_add_of_nonneg_right (by positivity), below⟩
    · have backward : k * step ≤ 0 := mul_nonpos_of_nonneg_of_nonpos (by positivity) downward.le
      exact .inr ⟨downward, above, by omega⟩
  · rintro (⟨upward, after, below⟩ | ⟨downward, above, before⟩)
    · exact .inl ⟨upward, by omega, below⟩
    · exact .inr ⟨downward, above, by omega⟩

theorem RangeItems.cons {first : Int64} {items : List Int64} (reached : Between first.toInt stop step first.toInt)
    (others : RangeItems (first.toInt + step) stop step items) : RangeItems first.toInt stop step (first :: items) := by
  intro k n
  cases k with
  | zero =>
      rw [List.getElem?_cons_zero, Option.some_inj, Nat.cast_zero, zero_mul, add_zero, and_iff_left reached, eq_comm,
        Int64.toInt_inj]
  | succ k =>
      rw [List.getElem?_cons_succ, others k n, between_next]
      push_cast
      rw [add_mul, one_mul, add_comm (k * step) step, add_assoc]

end

namespace Builtin

variable {stop step current : Int64}

theorem reaches_iff : reaches stop step current = true ↔ Between current.toInt stop.toInt step.toInt current.toInt := by
  simp only [reaches, decide_eq_true_iff, Between, Int64.lt_iff_toInt_lt, Int64.le_iff_toInt_le, Int64.toInt_zero, le_rfl,
    true_and, and_true]

theorem passed_of_overflow (overflow : Number.sum? current step = none) :
    ¬ Between (current.toInt + step.toInt) stop.toInt step.toInt (current.toInt + step.toInt) := by
  have low := stop.le_toInt
  have high := stop.toInt_lt
  intro inside
  have fits : -2 ^ 63 ≤ current.toInt + step.toInt ∧ current.toInt + step.toInt < 2 ^ 63 := by
    have := current.le_toInt
    have := current.toInt_lt
    rcases inside with ⟨upward, -, below⟩ | ⟨downward, above, -⟩ <;> omega
  obtain ⟨next, added, -⟩ := Number.narrow?_of_range fits.1 fits.2
  rw [Number.sum?, added] at overflow
  cases overflow

/-- The loop lists, behind what it has listed, the items of the range from where it stands. -/
theorem stepped_items (stop step current : Int64) (earlier : List Int64) :
    ∃ items, stepped stop step current earlier = earlier.reverse ++ items ∧
      RangeItems current.toInt stop.toInt step.toInt items := by
  fun_induction stepped stop step current earlier with
  | case1 current earlier ahead next added ih =>
      obtain ⟨items, listed, later⟩ := ih
      rw [Number.toInt_of_narrow? added] at later
      refine ⟨current :: items, ?_, .cons (reaches_iff.mp ahead) later⟩
      rw [listed, List.reverse_cons, List.append_assoc, List.singleton_append]
  | case2 current earlier ahead overflow =>
      have reached := reaches_iff.mp ahead
      exact ⟨[current], List.reverse_cons, .cons reached (.nil (passed_of_overflow overflow))⟩
  | case3 current earlier passed =>
      exact ⟨[], (List.append_nil _).symm, .nil (reaches_iff.not.mp passed)⟩

theorem call_range (start stop : Int64) {step : Int64} (moves : step ≠ 0) :
    ∃ items : List Int64, range.call [.int start, .int stop, .int step] = .ok (.list (items.map .int)) ∧
      RangeItems start.toInt stop.toInt step.toInt items := by
  obtain ⟨items, listed, exact⟩ := stepped_items stop step start []
  refine ⟨items, ?_, exact⟩
  change (if step = 0 then _ else Except.ok (Value.list ((stepped stop step start []).map Value.int))) = _
  rw [if_neg moves, listed, List.reverse_nil, List.nil_append]

end Builtin

namespace Value

theorem intsFrom_items {a b : Int64} (upward : a ≤ b) :
    ∃ items : List Int64, intsFrom a.toInt ((b.toInt - a.toInt).toNat + 1) = items.map int ∧
      items.length = (b.toInt - a.toInt).toNat + 1 ∧
      ∀ (k : Nat) (n : Int64), items[k]? = some n ↔ n.toInt = a.toInt + k ∧ a.toInt + k ≤ b.toInt := by
  have low := a.le_toInt
  have high := b.toInt_lt
  have order : a.toInt ≤ b.toInt := Int64.le_iff_toInt_le.mp upward
  have kept {k : Nat} (inside : a.toInt + k ≤ b.toInt) : (Int64.ofInt (a.toInt + k)).toInt = a.toInt + k :=
    Int64.toInt_ofInt_of_le (by omega) (by omega)
  refine ⟨(List.range ((b.toInt - a.toInt).toNat + 1)).map fun i => Int64.ofInt (a.toInt + Int.ofNat i),
    (List.map_map ..).symm, by rw [List.length_map, List.length_range], fun k n => ?_⟩
  simp only [List.getElem?_map, Option.map_eq_some_iff, List.getElem?_eq_some_iff, List.getElem_range, List.length_range]
  constructor
  · rintro ⟨_, ⟨inside, rfl⟩, rfl⟩
    exact ⟨kept (by omega), by omega⟩
  · rintro ⟨same, inside⟩
    exact ⟨k, ⟨by omega, rfl⟩, Int64.toInt_inj.mp ((kept inside).trans same.symm)⟩

/-- The operator gives the items of the range in steps of one, upward or downward. -/
theorem range_items (a b : Int64) :
    ∃ items : List Int64, range (int a) (int b) = .ok (list (items.map int)) ∧
      RangeItems a.toInt b.toInt (if a ≤ b then 1 else -1) items := by
  by_cases upward : a ≤ b
  · obtain ⟨items, counted, -, each⟩ := intsFrom_items upward
    refine ⟨items, ?_, fun k n => ?_⟩
    · simp only [range, toInt?, if_pos upward, counted]
    · rw [if_pos upward, each, mul_one]
      refine and_congr_right fun same => ⟨fun inside => .inl ⟨one_pos, by omega, inside⟩, ?_⟩
      rintro (⟨-, -, inside⟩ | ⟨downward, -, -⟩)
      · exact inside
      · omega
  · obtain ⟨items, counted, count, each⟩ := intsFrom_items (Int64.le_of_lt (Int64.not_le.mp upward))
    have order := Int64.le_iff_toInt_le.not.mp upward
    refine ⟨items.reverse, ?_, fun k n => ?_⟩
    · simp only [range, toInt?, if_neg upward, counted, List.map_reverse]
    · rw [if_neg upward, mul_neg_one]
      by_cases inside : k < items.length
      · rw [List.getElem?_reverse inside, each]
        constructor
        · rintro ⟨same, -⟩
          exact ⟨by omega, .inr ⟨by decide, by omega, by omega⟩⟩
        · rintro ⟨same, -⟩
          exact ⟨by omega, by omega⟩
      · rw [List.getElem?_eq_none (by rw [List.length_reverse]; omega)]
        refine iff_of_false nofun ?_
        rintro ⟨-, ⟨upward, -, -⟩ | ⟨-, above, -⟩⟩ <;> omega

theorem isIn_words (x : Int64) (items : List Int64) :
    isIn (int x) (list (items.map int)) = .ok (bool (decide (x ∈ items))) := by
  have each (item : Int64) : looselyEqual (int item) (int x) = (item == x) := rfl
  have found : (items.any fun item => item == x) = decide (x ∈ items) := by
    rw [List.any_beq', List.contains_eq_mem]
  simp only [isIn, List.any_map, Function.comp_def, each, found]

/-- In a range in steps of one, upward or downward, is what lies between its ends. -/
theorem mem_range_items {a b : Int64} {items : List Int64}
    (counted : RangeItems a.toInt b.toInt (if a ≤ b then 1 else -1) items) (x : Int64) :
    x ∈ items ↔ min a.toInt b.toInt ≤ x.toInt ∧ x.toInt ≤ max a.toInt b.toInt := by
  have order : a ≤ b ↔ a.toInt ≤ b.toInt := Int64.le_iff_toInt_le
  have item (k : Nat) := counted k x
  rw [List.mem_iff_getElem?]
  constructor
  · rintro ⟨k, found⟩
    obtain ⟨same, between⟩ := (item k).mp found
    rw [← same] at between
    rcases between with ⟨-, low, high⟩ | ⟨-, low, high⟩ <;> omega
  · rintro ⟨low, high⟩
    by_cases upward : a ≤ b
    · have ends := order.mp upward
      refine ⟨(x.toInt - a.toInt).toNat, (item _).mpr ?_⟩
      rw [if_pos upward, mul_one]
      exact ⟨by omega, .inl ⟨one_pos, by omega, by omega⟩⟩
    · have ends := order.not.mp upward
      refine ⟨(a.toInt - x.toInt).toNat, (item _).mpr ?_⟩
      rw [if_neg upward, mul_neg_one]
      exact ⟨by omega, .inr ⟨by decide, by omega, by omega⟩⟩

/-- Ranges are exact: the function lists the start and every number of whole steps from it that lies between the ends, and
nothing else. The operator gives the range in steps of one toward its second operand, and in it is what lies between its
operands. -/
theorem range_exact (start stop step x : Int64) :
    (step ≠ 0 → ∃ items : List Int64,
      Builtin.range.call [int start, int stop, int step] = .ok (list (items.map int)) ∧
        RangeItems start.toInt stop.toInt step.toInt items) ∧
    range (int start) (int stop) = Builtin.range.call [int start, int stop, int (if start ≤ stop then 1 else -1)] ∧
    (range (int start) (int stop) >>= isIn (int x)) =
      .ok (bool (min start.toInt stop.toInt ≤ x.toInt ∧ x.toInt ≤ max start.toInt stop.toInt)) := by
  obtain ⟨counted, ranged, items⟩ := range_items start stop
  refine ⟨Builtin.call_range start stop, ?function, ?membership⟩
  case function =>
    have moves : (if start ≤ stop then 1 else -1 : Int64) ≠ 0 := by split <;> decide
    have unit : (if start ≤ stop then 1 else -1 : Int64).toInt = if start ≤ stop then 1 else -1 := by split <;> rfl
    obtain ⟨listed, called, others⟩ := Builtin.call_range start stop moves
    rw [unit] at others
    rw [ranged, called, items.unique others]
  case membership =>
    rw [ranged, ok_bind, isIn_words]
    simp only [mem_range_items items]

/-- At the upper end of the words a step of five fits once more and not again, and a step of nine goes past the end. -/
theorem highest_range :
    (5 : Int64) ≠ 0 ∧
    Builtin.range.call [int 9223372036854775800, int 9223372036854775807, int 5] =
      .ok (list [int 9223372036854775800, int 9223372036854775805]) ∧
    (range (int 9223372036854775800) (int 9223372036854775807) >>= isIn (int 9223372036854775803)) = .ok (bool true) := by
  have moves : (5 : Int64) ≠ 0 := by decide
  obtain ⟨exact, -, membership⟩ := range_exact 9223372036854775800 9223372036854775807 5 9223372036854775803
  obtain ⟨items, called, listed⟩ := exact moves
  have last : RangeItems (9223372036854775805 : Int64).toInt (9223372036854775807 : Int64).toInt 5 [9223372036854775805] :=
    .cons (by decide) (.nil (by decide))
  have both : RangeItems (9223372036854775800 : Int64).toInt (9223372036854775807 : Int64).toInt 5
      [9223372036854775800, 9223372036854775805] := .cons (by decide) last
  rw [listed.unique both] at called
  exact ⟨moves, called, membership⟩

end Value

end Templating
