import Templating.Number.Layout
import Mathlib.Tactic.Common

/-! # Words as text

A word of 64 bits written as text is read back as the word, with its sign.
-/

namespace Templating.Number

theorem DecimalText.valueOf_toDigits (n : Nat) : valueOf (Nat.toDigits 10 n) = n := by
  have read := Nat.ofDigitChars_ten_toDigits (n := n)
  rw [valueOf]
  simpa only [Nat.ofDigitChars, Nat.mul_comm] using read

theorem isDigit_toDigits (n : Nat) : ∀ c ∈ Nat.toDigits 10 n, c.isDigit = true := fun _ member =>
  Nat.isDigit_of_mem_toDigits (by decide) (by decide) member

/-- An integer as text is its digits, behind a minus sign if it is negative. -/
theorem toList_toString_int (n : Int) :
    (toString n).toList = if n < 0 then '-' :: Nat.toDigits 10 n.natAbs else Nat.toDigits 10 n.natAbs := by
  cases n with
  | ofNat n =>
      rw [if_neg (by simp)]
      exact Nat.toList_repr
  | negSucc n =>
      rw [if_pos (Int.negSucc_lt_zero n)]
      change ("-" ++ Nat.repr (n + 1)).toList = _
      rw [String.toList_append, Nat.toList_repr]
      rfl

theorem unsigned_of_digits {digits : List Char} (each : ∀ c ∈ digits, c.isDigit = true) :
    (∀ rest, digits ≠ '-' :: rest) ∧ ∀ rest, digits ≠ '+' :: rest := by
  constructor <;> rintro rest rfl <;> exact absurd (each _ List.mem_cons_self) (by decide)

theorem readWord?_digits {digits : List Char} (some_digit : digits ≠ []) (each : ∀ c ∈ digits, c.isDigit = true) :
    readWord? digits = narrow? (DecimalText.valueOf digits) ∧
      readWord? ('-' :: digits) = narrow? (-DecimalText.valueOf digits) := by
  have filled : digits.isEmpty = false := by simpa using some_digit
  have all : digits.all Char.isDigit = true := List.all_eq_true.mpr each
  obtain ⟨noMinus, noPlus⟩ := unsigned_of_digits each
  constructor
  · rw [readWord?]
    · rw [filled, all]
      rfl
    · exact noMinus
    · exact noPlus
  · simp only [readWord?, filled, all]
    rfl

theorem readWord?_toString (n : Int64) : readWord? (toString n.toInt).toList = some n := by
  obtain ⟨plain, signed⟩ := readWord?_digits Nat.toDigits_ne_nil (isDigit_toDigits n.toInt.natAbs)
  rw [DecimalText.valueOf_toDigits] at plain signed
  rw [toList_toString_int]
  split
  · rw [signed, show -(n.toInt.natAbs : Int) = n.toInt by omega, narrow?_toInt]
  · rw [plain, show (n.toInt.natAbs : Int) = n.toInt by omega, narrow?_toInt]

end Templating.Number
