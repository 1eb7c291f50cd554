import Templating.Proofs.Outcome
import Templating.Value.Functions
import Mathlib.Data.List.Infix

/-! # Pieces of texts

A text that is split at a piece is cut where the piece stands first, and behind that in the same way. Replacing the piece
cuts at the same places, so it puts the replacement between the parts, and putting the piece back between them gives the
text again. Both walk the text on their own; what they have in common is the relation between a text and its parts.
-/

namespace Templating

namespace Text

/-- The parts of a text around a piece: it is cut where the piece stands first, and what is behind that in the same way. -/
inductive Parted (piece : List Char) : List Char → List (List Char) → Prop
  | whole {text : List Char} : (∀ k, ¬ piece <+: text.drop k) → Parted piece text [text]
  | cut {front rest : List Char} {parts : List (List Char)} :
      (∀ k < front.length, ¬ piece <+: (front ++ (piece ++ rest)).drop k) → Parted piece rest parts →
      Parted piece (front ++ (piece ++ rest)) (front :: parts)

theorem Parted.ne_nil {piece text : List Char} {parts : List (List Char)} (parted : Parted piece text parts) :
    parts ≠ [] := by
  cases parted <;> exact List.cons_ne_nil _ _

theorem Parted.intercalate_eq {piece text : List Char} {parts : List (List Char)} (parted : Parted piece text parts) :
    piece.intercalate parts = text := by
  induction parted with
  | whole nowhere => exact List.intercalate_singleton
  | cut first rest ih => rw [List.intercalate_cons_of_ne_nil rest.ne_nil, ih, List.append_assoc]

section

variable {first : Char} {more : List Char}

theorem isPrefixOf?_eq_none_iff {piece text : List Char} : piece.isPrefixOf? text = none ↔ ¬ piece <+: text := by
  rw [Option.eq_none_iff_forall_ne_some]
  simp only [ne_eq, List.isPrefixOf?_eq_some_iff_append_eq]
  exact not_exists.symm

theorem splitParts_parted {part text : List Char}
    (unbegun : ∀ k < part.length, ¬ first :: more <+: (part.reverse ++ text).drop k) :
    Parted (first :: more) (part.reverse ++ text) (splitParts first more part text) := by
  fun_induction splitParts first more part text with
  | case1 part text rest found ih =>
      rw [← List.isPrefixOf?_eq_some_iff_append_eq.mp found] at unbegun ⊢
      exact .cut (by simpa using unbegun) (ih nofun)
  | case2 part missing =>
      rw [List.append_nil] at unbegun ⊢
      refine .whole fun k begins => ?_
      by_cases inside : k < part.length
      · exact unbegun k inside begins
      · rw [List.drop_eq_nil_of_le (by rw [List.length_reverse]; omega)] at begins
        cases List.prefix_nil.mp begins
  | case3 part c rest missing ih =>
      rw [List.reverse_cons, List.append_assoc, List.singleton_append] at ih
      refine ih fun k inside begins => ?_
      obtain before | rfl := Nat.lt_succ_iff_lt_or_eq.mp inside
      · exact unbegun k before begins
      · rw [← List.length_reverse, List.drop_left] at begins
        exact isPrefixOf?_eq_none_iff.mp missing begins

theorem replaceParts_nil (replacement done : List Char) : replaceParts first more replacement done [] = done.reverse := by
  rw [replaceParts.eq_def]
  rfl

theorem replaceParts_piece (replacement done rest : List Char) :
    replaceParts first more replacement done (first :: more ++ rest) =
      replaceParts first more replacement (replacement.reverse ++ done) rest := by
  have found : (first :: more).isPrefixOf? (first :: more ++ rest) = some rest :=
    List.isPrefixOf?_eq_some_iff_append_eq.mpr rfl
  rw [replaceParts.eq_def]
  split
  · rename_i behind begins
    cases found.symm.trans begins
    rfl
  · rename_i missing
    cases found.symm.trans missing

/-- Replacing keeps what stands in front of the first place where the piece begins. -/
theorem replaceParts_front {front behind : List Char} (replacement done : List Char)
    (unbegun : ∀ k < front.length, ¬ first :: more <+: (front ++ behind).drop k) :
    replaceParts first more replacement done (front ++ behind) =
      replaceParts first more replacement (front.reverse ++ done) behind := by
  induction front generalizing done with
  | nil => rfl
  | cons c front ih =>
      have missing := isPrefixOf?_eq_none_iff.mpr (unbegun 0 (Nat.zero_lt_succ _))
      rw [List.cons_append, List.drop_zero] at missing
      have later : ∀ k < front.length, ¬ first :: more <+: (front ++ behind).drop k :=
        fun k inside => unbegun (k + 1) (Nat.succ_lt_succ inside)
      rw [List.cons_append, replaceParts.eq_def]
      split
      · rename_i found
        cases missing.symm.trans found
      · dsimp only
        rw [ih (c :: done) later, List.reverse_cons, List.append_assoc, List.singleton_append]

theorem Parted.replaceParts_eq {text : List Char} {parts : List (List Char)} (parted : Parted (first :: more) text parts)
    (replacement done : List Char) :
    replaceParts first more replacement done text = done.reverse ++ replacement.intercalate parts := by
  induction parted generalizing done with
  | @whole text nowhere =>
      have unbegun : ∀ k < text.length, ¬ first :: more <+: (text ++ []).drop k := by
        rw [List.append_nil]
        exact fun k _ => nowhere k
      have walked := replaceParts_front replacement done unbegun
      rw [List.append_nil, replaceParts_nil, List.reverse_append, List.reverse_reverse] at walked
      rw [walked, List.intercalate_singleton]
  | cut unbegun parted ih =>
      rw [replaceParts_front replacement done unbegun, replaceParts_piece, ih, List.intercalate_cons_of_ne_nil parted.ne_nil]
      simp only [List.reverse_append, List.reverse_reverse, List.append_assoc]

end

theorem exists_cons_of_ne_empty {piece : String} (nonempty : piece ≠ "") : ∃ first more, piece.toList = first :: more :=
  List.exists_cons_of_ne_nil (String.toList_eq_nil_iff.not.mpr nonempty)

theorem split_parted {piece : String} (nonempty : piece ≠ "") (text : String) :
    Parted piece.toList text.toList ((split piece text).map String.toList) := by
  obtain ⟨first, more, characters⟩ := exists_cons_of_ne_empty nonempty
  have parted : Parted (first :: more) ([].reverse ++ text.toList) (splitParts first more [] text.toList) :=
    splitParts_parted nofun
  simpa [split, characters, Function.comp_def] using parted

theorem intercalate_characters (text : List Char) : [].intercalate (text.map fun c => [c]) = text := by
  induction text with
  | nil => rfl
  | cons c text ih =>
      obtain rfl | further := eq_or_ne text []
      · rfl
      · rw [List.map_cons, List.intercalate_cons_of_ne_nil (List.map_eq_nil_iff.not.mpr further), ih]
        rfl

theorem intercalate_split (separator text : String) : String.intercalate separator (split separator text) = text := by
  rw [← String.toList_inj, String.toList_intercalate]
  obtain rfl | nonempty := eq_or_ne separator ""
  · simp [split, Function.comp_def, intercalate_characters]
  · exact (split_parted nonempty text).intercalate_eq

/-- Replacing a piece puts the replacement between the parts that splitting gives. -/
theorem replace_eq_intercalate {piece : String} (nonempty : piece ≠ "") (replacement text : String) :
    replace piece replacement text = String.intercalate replacement (split piece text) := by
  have parted := split_parted nonempty text
  obtain ⟨first, more, characters⟩ := exists_cons_of_ne_empty nonempty
  rw [characters] at parted
  rw [← String.toList_inj, String.toList_intercalate, replace, characters, String.toList_ofList,
    parted.replaceParts_eq, List.reverse_nil, List.nil_append]

end Text

namespace Value

/-- Whether a value is no container. -/
def isScalar : Value → Bool
  | list _ | map _ => false
  | null | bool _ | int _ | float _ | string _ => true

theorem textArgument_of_isScalar (function : String) (args : List Value) (position : Nat)
    (scalar : (argument args position).isScalar) :
    textArgument function args position = .ok (argument args position).display := by
  rw [textArgument]
  split
  · rename_i items container
    rw [container] at scalar
    cases scalar
  · rename_i entries container
    rw [container] at scalar
    cases scalar
  · rfl

section

variable {subject piece replacement : Value}

theorem call_split (scalar : subject.isScalar) (separating : piece.isScalar) :
    CoreMethod.split.call [subject, piece] = .ok (list ((Text.split piece.display subject.display).map string)) := by
  have text : textArgument "split" [subject, piece] 0 = .ok subject.display := textArgument_of_isScalar _ _ 0 scalar
  have separator : textArgument "split" [subject, piece] 1 = .ok piece.display := textArgument_of_isScalar _ _ 1 separating
  simp only [CoreMethod.call, text, separator, ok_bind, pure_eq_ok]

theorem call_replace (scalar : subject.isScalar) (replaced : piece.isScalar) (replacing : replacement.isScalar) :
    CoreMethod.replace.call [subject, piece, replacement] =
      .ok (string (Text.replace piece.display replacement.display subject.display)) := by
  have text : textArgument "replace" [subject, piece, replacement] 0 = .ok subject.display :=
    textArgument_of_isScalar _ _ 0 scalar
  have old : textArgument "replace" [subject, piece, replacement] 1 = .ok piece.display :=
    textArgument_of_isScalar _ _ 1 replaced
  have new : textArgument "replace" [subject, piece, replacement] 2 = .ok replacement.display :=
    textArgument_of_isScalar _ _ 2 replacing
  simp only [CoreMethod.call, text, old, new, ok_bind, pure_eq_ok]

theorem call_join (parts : List String) (joining : piece.isScalar) :
    Builtin.join.call [list (parts.map string), piece] = .ok (string (String.intercalate piece.display parts)) := by
  have separator : textArgument "join" [list (parts.map string), piece] 1 = .ok piece.display :=
    textArgument_of_isScalar _ _ 1 joining
  have items : (parts.map string).map display = parts := by
    rw [List.map_map]
    exact List.map_id parts
  have first : argument [list (parts.map string), piece] 0 = list (parts.map string) := rfl
  simp only [Builtin.call, separator, first, items, ok_bind, pure_eq_ok]

end

/-- Splitting, joining and replacing fit together. A text is split at the places where the separator stands, found one after
the other, and into its characters if the separator is empty; joining the parts with the separator gives the text again,
and joining them with anything else gives the text with that in place of the separator. -/
theorem split_fits {subject separator : Value} (scalar : subject.isScalar) (separating : separator.isScalar) :
    ∃ parts : List String,
      CoreMethod.split.call [subject, separator] = .ok (list (parts.map string)) ∧
      Builtin.join.call [list (parts.map string), separator] = .ok (string subject.display) ∧
      (separator.display = "" → parts = subject.display.toList.map String.singleton) ∧
      (separator.display ≠ "" →
        Text.Parted separator.display.toList subject.display.toList (parts.map String.toList) ∧
        ∀ replacement : Value, replacement.isScalar → ∃ text,
          CoreMethod.replace.call [subject, separator, replacement] = .ok (string text) ∧
          Builtin.join.call [list (parts.map string), replacement] = .ok (string text)) := by
  refine ⟨Text.split separator.display subject.display, call_split scalar separating, ?joined, ?empty, ?nonempty⟩
  case joined => rw [call_join _ separating, Text.intercalate_split]
  case empty =>
    intro empty
    rw [empty]
    rfl
  case nonempty =>
    intro nonempty
    refine ⟨Text.split_parted nonempty _, fun replacement replacing => ⟨_, call_replace scalar separating replacing, ?_⟩⟩
    rw [call_join _ replacing, Text.replace_eq_intercalate nonempty]

/-- The separator may overlap itself and stand at the end: the second `a` of three is not the start of another one. -/
theorem overlapping_split_fits :
    ∃ parts : List String,
      (string "aaab0aa").isScalar ∧ (string "aa").isScalar ∧ (int 7).isScalar ∧ (string "aa").display ≠ "" ∧
      parts = ["", "ab0", ""] ∧
      CoreMethod.split.call [string "aaab0aa", string "aa"] = .ok (list (parts.map string)) ∧
      Builtin.join.call [list (parts.map string), string "aa"] = .ok (string "aaab0aa") ∧
      CoreMethod.replace.call [string "aaab0aa", string "aa", int 7] = .ok (string "7ab07") := by
  have scalar : (string "aaab0aa").isScalar := rfl
  have separating : (string "aa").isScalar := rfl
  have replacing : (int 7).isScalar := rfl
  have nonempty : (string "aa").display ≠ "" := by decide
  obtain ⟨parts, called, joined, -, further⟩ := split_fits scalar separating
  obtain ⟨-, replaced⟩ := further nonempty
  obtain ⟨text, replacedTo, joinedTo⟩ := replaced (int 7) replacing
  have known : Text.split "aa" "aaab0aa" = ["", "ab0", ""] := by cbv
  have same : parts = ["", "ab0", ""] := by
    have both := called.symm.trans (call_split scalar separating)
    rw [← known]
    exact List.map_injective_iff.mpr (fun _ _ => string.inj) (list.inj (Except.ok.inj both))
  subst same
  have written : Builtin.join.call [list (["", "ab0", ""].map string), int 7] = .ok (string "7ab07") := by cbv
  cases joinedTo.symm.trans written
  exact ⟨_, scalar, separating, replacing, nonempty, rfl, called, joined, replacedTo⟩

end Value

end Templating
