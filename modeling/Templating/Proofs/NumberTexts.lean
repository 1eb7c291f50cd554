import Templating.Proofs.NumberCharacters
import Templating.Proofs.ShortestDigits
import Templating.Proofs.WordTexts

/-! # Doubles as text

Every finite double written as text is read back as the double, with and without an exponent.
-/

namespace Templating.Number

open Float.Model Float.Model.UnpackedFloat

namespace DecimalText

theorem value_mk (whole fraction : List Char) (exponent : Int) :
    value ⟨whole, fraction, exponent⟩ = valueOf (whole ++ fraction) * 10 ^ (exponent - fraction.length) := rfl

theorem valueOf_append (front back : List Char) :
    valueOf (front ++ back) = valueOf front * 10 ^ back.length + valueOf back := by
  have shifted (start : Nat) : back.foldl (fun value c => value * 10 + (c.toNat - '0'.toNat)) start =
      start * 10 ^ back.length + valueOf back := by
    induction back generalizing start with
    | nil => simp [valueOf]
    | cons c back ih =>
        rw [valueOf, List.foldl_cons, List.foldl_cons, ih, ih (0 * 10 + _), List.length_cons]
        ring
  rw [valueOf, List.foldl_append, shifted]
  rfl

theorem valueOf_zeros (count : Nat) : valueOf (Layout.zeros count) = 0 := by
  induction count with
  | zero => rfl
  | succ count ih =>
      have split : Layout.zeros (count + 1) = ['0'] ++ Layout.zeros count := rfl
      rw [split, valueOf_append, ih, add_zero]
      exact Nat.zero_mul _

end DecimalText

theorem length_zeros (count : Nat) : (Layout.zeros count).length = count :=
  List.length_replicate

theorem isDigit_zeros (count : Nat) : ∀ c ∈ Layout.zeros count, c.isDigit = true := by
  intro c member
  rw [List.eq_of_mem_replicate member]
  rfl

theorem takeWhile_digits {digits rest : List Char} (each : ∀ c ∈ digits, c.isDigit = true)
    (stops : ∀ c ∈ rest.head?, c.isDigit = false) :
    (digits ++ rest).takeWhile Char.isDigit = digits ∧ (digits ++ rest).dropWhile Char.isDigit = rest := by
  rw [List.takeWhile_append_of_pos each, List.dropWhile_append_of_pos each]
  cases rest with
  | nil => simp
  | cons c rest =>
      have other := stops c rfl
      simp [other]

namespace DecimalText

theorem readExponent?_digits {digits : List Char} (some_digit : digits ≠ []) (each : ∀ c ∈ digits, c.isDigit = true) :
    readExponent? ('e' :: digits) = some (valueOf digits : Int) ∧
      readExponent? ('e' :: '-' :: digits) = some (-(valueOf digits : Int)) := by
  have filled : digits.isEmpty = false := by simpa using some_digit
  have all : digits.all Char.isDigit = true := List.all_eq_true.mpr each
  obtain ⟨noMinus, noPlus⟩ := unsigned_of_digits each
  constructor
  · rw [readExponent?]
    · simp [filled, all]
    · exact noMinus
    · exact noPlus
  · simp [readExponent?, filled, all]

theorem readExponent?_toString (power : Int) : readExponent? ('e' :: (toString power).toList) = some power := by
  obtain ⟨plain, signed⟩ := readExponent?_digits Nat.toDigits_ne_nil (isDigit_toDigits power.natAbs)
  rw [valueOf_toDigits] at plain signed
  rw [toList_toString_int]
  split
  · rw [signed, show -(power.natAbs : Int) = power by omega]
  · rw [plain, show (power.natAbs : Int) = power by omega]

theorem read?_pointed {whole fraction rest : List Char} (some_digit : whole ≠ []) (front : ∀ c ∈ whole, c.isDigit = true)
    (behind : ∀ c ∈ fraction, c.isDigit = true) (stops : ∀ c ∈ rest.head?, c.isDigit = false) :
    read? (whole ++ '.' :: (fraction ++ rest)) = (readExponent? rest).map fun exponent => ⟨whole, fraction, exponent⟩ := by
  have point : ∀ c ∈ ('.' :: (fraction ++ rest)).head?, c.isDigit = false := by simp
  obtain ⟨takes, drops⟩ := takeWhile_digits front point
  obtain ⟨takes', drops'⟩ := takeWhile_digits behind stops
  rw [read?]
  simp only [takes, drops, takes', drops']
  rw [if_neg (by simp [some_digit])]

theorem read?_plain {whole rest : List Char} (some_digit : whole ≠ []) (front : ∀ c ∈ whole, c.isDigit = true)
    (stops : ∀ c ∈ rest.head?, c.isDigit = false ∧ c ≠ '.') :
    read? (whole ++ rest) = (readExponent? rest).map fun exponent => ⟨whole, [], exponent⟩ := by
  obtain ⟨takes, drops⟩ := takeWhile_digits front fun c member => (stops c member).1
  have noPoint : ∀ more, rest ≠ '.' :: more := by
    rintro more rfl
    exact (stops '.' rfl).2 rfl
  have filled : whole.isEmpty = false := by simpa using some_digit
  rw [read?]
  simp [takes, drops, filled]

theorem read?_fraction {whole fraction : List Char} (some_digit : whole ≠ []) (front : ∀ c ∈ whole, c.isDigit = true)
    (behind : ∀ c ∈ fraction, c.isDigit = true) : read? (whole ++ '.' :: fraction) = some ⟨whole, fraction, 0⟩ := by
  have ends : ∀ c ∈ ([] : List Char).head?, c.isDigit = false := nofun
  have read := read?_pointed some_digit front behind ends
  rwa [List.append_nil] at read

theorem read?_whole {whole : List Char} (some_digit : whole ≠ []) (front : ∀ c ∈ whole, c.isDigit = true) :
    read? whole = some ⟨whole, [], 0⟩ := by
  have ends : ∀ c ∈ ([] : List Char).head?, c.isDigit = false ∧ c ≠ '.' := nofun
  have read := read?_plain some_digit front ends
  rwa [List.append_nil] at read

end DecimalText

namespace Layout

open DecimalText

theorem read?_placeDigits (layout : Layout) {digits : List Char} (some_digit : digits ≠ [])
    (each : ∀ c ∈ digits, c.isDigit = true) (exponent : Int) :
    ∃ d, read? (layout.placeDigits digits exponent) = some d ∧ d.value = valueOf digits * 10 ^ exponent := by
  rw [placeDigits]
  split
  · rename_i up
    have whole : ∀ c ∈ digits ++ zeros exponent.toNat, c.isDigit = true :=
      List.forall_mem_append.mpr ⟨each, isDigit_zeros _⟩
    have filled : digits ++ zeros exponent.toNat ≠ [] := by simp [some_digit]
    have size : (10 : ℚ) ^ exponent = 10 ^ exponent.toNat := by rw [← zpow_natCast, Int.toNat_of_nonneg up]
    cases layout.keepsPoint with
    | true =>
        refine ⟨_, read?_fraction filled whole (by simp), ?_⟩
        have zero : valueOf ['0'] = 0 := rfl
        rw [value_mk, size, valueOf_append, valueOf_append, valueOf_zeros, length_zeros, zero, List.length_singleton,
          Nat.cast_one, zero_sub, zpow_neg_one, pow_one]
        push_cast
        rw [add_zero, add_zero, mul_inv_cancel_right₀ (by norm_num)]
    | false =>
        refine ⟨_, (congrArg read? (List.append_nil _)).trans (read?_whole filled whole), ?_⟩
        rw [value_mk, size, List.append_nil, valueOf_append, valueOf_zeros, length_zeros]
        simp
  · rename_i down
    have size : (10 : ℚ) ^ exponent = 10 ^ (-((-exponent).toNat : Int)) := by rw [Int.toNat_of_nonneg (by omega), neg_neg]
    rw [size]
    generalize (-exponent).toNat = places
    dsimp only
    split
    · rename_i inside
      have front : digits.take (digits.length - places) ≠ [] := by
        rw [Ne, List.take_eq_nil_iff]
        exact not_or.mpr ⟨by omega, some_digit⟩
      refine ⟨_, read?_fraction front (fun c member => each c (List.mem_of_mem_take member))
        (fun c member => each c (List.mem_of_mem_drop member)), ?_⟩
      rw [value_mk, List.take_append_drop, List.length_drop, Nat.sub_sub_self inside.le, zero_sub]
    · rename_i before
      have behind : ∀ c ∈ zeros (places - digits.length) ++ digits, c.isDigit = true :=
        List.forall_mem_append.mpr ⟨isDigit_zeros _, each⟩
      have zero : valueOf ['0'] = 0 := rfl
      refine ⟨⟨['0'], zeros (places - digits.length) ++ digits, 0⟩,
        read?_fraction (List.cons_ne_nil '0' []) (by simp) behind, ?_⟩
      rw [value_mk, List.length_append, length_zeros, valueOf_append, valueOf_append, valueOf_zeros, zero, Nat.zero_mul,
        Nat.zero_mul, Nat.zero_add, Nat.zero_add, Nat.sub_add_cancel (not_lt.mp before), zero_sub]

theorem read?_scaleDigits {digits : List Char} (some_digit : digits ≠ []) (each : ∀ c ∈ digits, c.isDigit = true)
    (exponent : Int) :
    ∃ d, read? (scaleDigits digits exponent) = some d ∧ d.value = valueOf digits * 10 ^ exponent := by
  have stops (power : Int) : ∀ c ∈ ('e' :: (toString power).toList).head?, c.isDigit = false ∧ c ≠ '.' := by
    rintro c ⟨⟩
    decide
  match digits with
  | [] => exact absurd rfl some_digit
  | [first] =>
      have read := read?_plain some_digit each (stops (exponent + Int.ofNat [first].length - 1))
      rw [readExponent?_toString] at read
      refine ⟨_, read, ?_⟩
      rw [value_mk, List.append_nil]
      simp
  | first :: second :: more =>
      obtain ⟨front, behind⟩ := List.forall_mem_cons.mp each
      have read := read?_pointed (List.cons_ne_nil first []) (List.forall_mem_singleton.mpr front) behind
        fun c member => (stops (exponent + Int.ofNat (first :: second :: more).length - 1) c member).1
      rw [readExponent?_toString] at read
      refine ⟨_, read, ?_⟩
      rw [value_mk]
      congr 2
      simp
      omega

theorem readFloat?_of_read? {text : List Char} {d : DecimalText} (read : read? text = some d) :
    readFloat? text = some d.toFloat ∧ readFloat? ('-' :: text) = some (-d.toFloat) := by
  have unsigned (sign : Char) (noDigit : sign.isDigit = false) (noPoint : sign ≠ '.') : ∀ rest, text ≠ sign :: rest := by
    rintro rest rfl
    have none : read? (sign :: rest) = none := by simp [read?, noDigit, noPoint]
    rw [none] at read
    cases read
  constructor
  · rw [readFloat?]
    · simp [read]
    · exact unsigned '-' (by decide) (by decide)
    · exact unsigned '+' (by decide) (by decide)
  · simp [readFloat?, read]

theorem read?_sizeText (layout : Layout) (m : Nat) (e : Int) :
    ∃ d, read? (layout.sizeText m e) = some d ∧ d.value = if m = 0 then 0 else (shortest m e).value := by
  rw [sizeText]
  split
  · obtain ⟨d, read, value⟩ := layout.read?_placeDigits (List.cons_ne_nil '0' []) (by simp) 0
    have zero : valueOf ['0'] = 0 := rfl
    exact ⟨d, read, by rw [value, zero, Nat.cast_zero, zero_mul]⟩
  · have digits := isDigit_toDigits (shortest m e).digits
    have placed := layout.read?_placeDigits Nat.toDigits_ne_nil digits (shortest m e).exponent
    have scaled := read?_scaleDigits Nat.toDigits_ne_nil digits (shortest m e).exponent
    rw [valueOf_toDigits] at placed scaled
    dsimp only
    split
    · exact placed
    · exact scaled

theorem literal_marked {x : Float} {negative : Bool} {m : Nat} {e : Int}
    (finite : Binary64.ofFloat x = .finite negative m e) : ∃ c ∈ (literal.write x).toList, c = '.' ∨ c = 'e' := by
  have placed (digits : List Char) (exponent : Int) : '.' ∈ literal.placeDigits digits exponent := by
    unfold placeDigits
    split
    · exact List.mem_append_right _ List.mem_cons_self
    · dsimp only
      split
      · exact List.mem_append_right _ List.mem_cons_self
      · exact List.mem_cons_of_mem _ (List.mem_cons_self)
  have scaled (digits : List Char) (exponent : Int) : 'e' ∈ scaleDigits digits exponent :=
    List.mem_append_right _ List.mem_cons_self
  have size : ∃ c ∈ literal.sizeText m e, c = '.' ∨ c = 'e' := by
    unfold sizeText
    split
    · exact ⟨_, placed _ _, .inl rfl⟩
    · dsimp only
      split
      · exact ⟨_, placed _ _, .inl rfl⟩
      · exact ⟨_, scaled _ _, .inr rfl⟩
  obtain ⟨c, member, mark⟩ := size
  rw [literal.write_of_finite finite]
  cases negative
  · exact ⟨c, member, mark⟩
  · exact ⟨c, List.mem_cons_of_mem _ member, mark⟩

theorem readFloat?_write (layout : Layout) {x : Float} {negative : Bool} {m : Nat} {e : Int}
    (finite : Binary64.ofFloat x = .finite negative m e) : readFloat? (layout.write x).toList = some x := by
  obtain ⟨d, read, value⟩ := layout.read?_sizeText m e
  obtain ⟨plain, signed⟩ := readFloat?_of_read? read
  have read : readFloat? (layout.write x).toList = some (if negative then -d.toFloat else d.toFloat) := by
    rw [layout.write_of_finite finite]
    cases negative
    · exact plain
    · exact signed
  rw [read, Option.some_inj]
  obtain rfl | positive := Nat.eq_zero_or_pos m
  · have zero : d.toFloat = 0.0 := by
      rw [if_pos rfl, DecimalText.value, mul_eq_zero, Nat.cast_eq_zero] at value
      exact if_pos (.inl (value.resolve_right (zpow_ne_zero _ (by norm_num))))
    have model : x = Float.ofModel (Float.Model.pack (.zero (signOf negative))) :=
      congrArg Float.ofModel (toModel_of_zero finite)
    rw [zero, model]
    cases negative <;> rfl
  · have canonical := canonical_of_ofFloat finite positive
    rw [if_neg positive.ne'] at value
    have size : d.toFloat = Float.ofModel (Float.Model.pack (.finite .positive m e positive)) :=
      congrArg Float.ofModel (toFloat_of_rounds canonical (value ▸ rounds_shortest canonical))
    have model : x = Float.ofModel (Float.Model.pack (.finite (signOf negative) m e positive)) :=
      congrArg Float.ofModel (toModel_of_finite finite positive)
    rw [size, model]
    cases negative with
    | false => rfl
    | true => exact neg_pack canonical

end Layout

end Templating.Number
