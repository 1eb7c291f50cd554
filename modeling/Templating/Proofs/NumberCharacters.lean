import Templating.Number.Layout

/-! # The characters of numbers

Numbers as text have digits, a sign, a point, an exponent and the letters of two words. What code, markup and texts around
them give a meaning is none of these.
-/

namespace Templating

/-- The characters of numbers that are no digits. -/
def numeralMarks : List Char :=
  ['.', '-', 'e', 'N', 'a', 'i', 'n', 'f']

/-- A character of a number: a digit, the point, the sign, the exponent, or a letter of the words for no number and for
infinity. -/
def IsNumeral (c : Char) : Prop :=
  c.isDigit = true ∨ c ∈ numeralMarks

theorem isNumeral_toDigits {n : Nat} : ∀ c ∈ Nat.toDigits 10 n, IsNumeral c :=
  fun _ member => .inl (Nat.isDigit_of_mem_toDigits (by decide) (by decide) member)

theorem isNumeral_int (n : Int) : ∀ c ∈ (toString n).toList, IsNumeral c := by
  cases n with
  | ofNat n =>
      change ∀ c ∈ (Nat.repr n).toList, IsNumeral c
      rw [Nat.toList_repr]
      exact isNumeral_toDigits
  | negSucc n =>
      change ∀ c ∈ ("-" ++ Nat.repr (n + 1)).toList, IsNumeral c
      rw [String.toList_append, Nat.toList_repr]
      exact List.forall_mem_append.mpr ⟨List.forall_mem_singleton.mpr (.inr (by decide)), isNumeral_toDigits⟩

namespace Number.Layout

theorem isNumeral_zeros (count : Nat) : ∀ c ∈ zeros count, IsNumeral c := by
  intro c member
  rw [List.eq_of_mem_replicate member]
  exact .inl rfl

theorem isNumeral_placeDigits {digits : List Char} (numerals : ∀ c ∈ digits, IsNumeral c) (layout : Layout)
    (exponent : Int) : ∀ c ∈ layout.placeDigits digits exponent, IsNumeral c := by
  have zero : IsNumeral '0' := .inl rfl
  have point : IsNumeral '.' := .inr (by decide)
  unfold placeDigits
  split
  · refine List.forall_mem_append.mpr ⟨List.forall_mem_append.mpr ⟨numerals, isNumeral_zeros _⟩, ?_⟩
    split
    · exact List.forall_mem_cons.mpr ⟨point, List.forall_mem_singleton.mpr zero⟩
    · exact List.forall_mem_nil _
  · dsimp only
    split
    · refine List.forall_mem_append.mpr ⟨fun c member => numerals c (List.mem_of_mem_take member), ?_⟩
      exact List.forall_mem_cons.mpr ⟨point, fun c member => numerals c (List.mem_of_mem_drop member)⟩
    · refine List.forall_mem_append.mpr ⟨?_, numerals⟩
      exact List.forall_mem_cons.mpr ⟨zero, List.forall_mem_cons.mpr ⟨point, isNumeral_zeros _⟩⟩

theorem isNumeral_scaleDigits {digits : List Char} (numerals : ∀ c ∈ digits, IsNumeral c) (exponent : Int) :
    ∀ c ∈ scaleDigits digits exponent, IsNumeral c := by
  unfold scaleDigits
  dsimp only
  refine List.forall_mem_append.mpr ⟨?_, List.forall_mem_cons.mpr ⟨.inr (by decide), isNumeral_int _⟩⟩
  split
  · exact List.forall_mem_singleton.mpr (.inl rfl)
  · exact numerals
  · obtain ⟨first, rest⟩ := List.forall_mem_cons.mp numerals
    exact List.forall_mem_cons.mpr ⟨first, List.forall_mem_cons.mpr ⟨.inr (by decide), rest⟩⟩

/-- The text of a double without its sign. -/
def sizeText (layout : Layout) (mantissa : Nat) (exponent : Int) : List Char :=
  if mantissa = 0 then layout.placeDigits ['0'] 0
  else
    let d := shortest mantissa exponent
    let digits := Nat.toDigits 10 d.digits
    if layout.positional (d.exponent + Int.ofNat digits.length - 1) then layout.placeDigits digits d.exponent
    else scaleDigits digits d.exponent

theorem write_of_finite (layout : Layout) {x : Float} {negative : Bool} {m : Nat} {e : Int}
    (finite : Binary64.ofFloat x = .finite negative m e) :
    (layout.write x).toList = if negative then '-' :: layout.sizeText m e else layout.sizeText m e := by
  rw [write, finite]
  dsimp only
  rw [String.toList_ofList]
  rfl

theorem isNumeral_sizeText (layout : Layout) (m : Nat) (e : Int) : ∀ c ∈ layout.sizeText m e, IsNumeral c := by
  unfold sizeText
  split
  · exact isNumeral_placeDigits (List.forall_mem_singleton.mpr (.inl rfl)) layout 0
  · dsimp only
    split
    · exact isNumeral_placeDigits isNumeral_toDigits layout _
    · exact isNumeral_scaleDigits isNumeral_toDigits _

/-- The text of a double has digits, the point, the sign, the exponent and the letters of `NaN` and `inf`. -/
theorem isNumeral_write (layout : Layout) (x : Float) : ∀ c ∈ (layout.write x).toList, IsNumeral c := by
  have word (word : String) (letters : ∀ c ∈ word.toList, c ∈ numeralMarks) : ∀ c ∈ word.toList, IsNumeral c :=
    fun c member => .inr (letters c member)
  cases taken : Binary64.ofFloat x with
  | nan =>
      rw [write, taken]
      exact word "NaN" (by simp [numeralMarks])
  | infinite negative =>
      rw [write, taken]
      cases negative
      · exact word "inf" (by simp [numeralMarks])
      · exact word "-inf" (by simp [numeralMarks])
  | finite negative m e =>
      rw [layout.write_of_finite taken]
      split
      · exact List.forall_mem_cons.mpr ⟨.inr (by decide), layout.isNumeral_sizeText m e⟩
      · exact layout.isNumeral_sizeText m e

end Number.Layout

end Templating
