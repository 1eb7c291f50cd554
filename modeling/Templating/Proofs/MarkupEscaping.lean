import Templating.Render.Output
import Templating.Proofs.NumberCharacters
import Templating.Proofs.Outcome

/-! # Escaped output

A text that stands in markup holds none of the characters that markup gives a meaning, but the entities that stand for
them. Reading the entities gives the text back, so texts that differ still differ in markup. Values that print as digits,
signs and letters only may be written as they are: no character of them has an entity.
-/

namespace Templating

/-- The entities of markup, each with the character it stands for. -/
def entities : List (String × Char) :=
  [("&amp;", '&'), ("&lt;", '<'), ("&gt;", '>'), ("&quot;", '"'), ("&#39;", '\'')]

/-- The characters that markup gives a meaning. -/
def reserved : List Char :=
  entities.map Prod.snd

/-- The entity that a text starts with, if it starts with one. -/
def entityAt? (text : List Char) : Option (String × Char) :=
  entities.find? fun entity => entity.1.toList.isPrefixOf text

/-- The characters that a text in markup stands for. -/
def unescape : List Char → List Char
  | [] => []
  | c :: text =>
    match entityAt? (c :: text) with
    | some entity => entity.2 :: unescape (text.drop (entity.1.length - 1))
    | none => c :: unescape text
termination_by text => text.length
decreasing_by all_goals simp; try omega

/-- The text that a text in markup stands for. -/
def unescapeMarkup (markup : String) : String :=
  String.ofList (unescape markup.toList)

variable {text : String} {chars rest : List Char} {c : Char} {entity : String × Char}

theorem entity_ne_nil (known : entity ∈ entities) : entity.1.toList ≠ [] := by
  have each : ∀ entity ∈ entities, entity.1.toList ≠ [] := by decide
  exact each entity known

theorem entityAt?_append (known : entity ∈ entities) (rest : List Char) :
    entityAt? (entity.1.toList ++ rest) = some entity := by
  simp only [entities, List.mem_cons, List.not_mem_nil, or_false] at known
  rcases known with rfl | rfl | rfl | rfl | rfl <;> rfl

theorem entityAt?_cons (plain : c ≠ '&') (rest : List Char) : entityAt? (c :: rest) = none := by
  simp [entityAt?, entities, Ne.symm plain]

theorem unescape_append (known : entity ∈ entities) (rest : List Char) :
    unescape (entity.1.toList ++ rest) = entity.2 :: unescape rest := by
  have here := entityAt?_append known rest
  cases shape : entity.1.toList with
  | nil => exact absurd shape (entity_ne_nil known)
  | cons first more =>
      rw [shape] at here
      have length : entity.1.length - 1 = more.length := by
        rw [← String.length_toList, shape]
        rfl
      rw [List.cons_append] at here ⊢
      rw [unescape, here]
      dsimp only
      rw [length, List.drop_left]

theorem unescape_cons (plain : c ≠ '&') (rest : List Char) : unescape (c :: rest) = c :: unescape rest := by
  rw [unescape, entityAt?_cons plain]

theorem escapeChar_cases (c : Char) :
    (∃ entity ∈ entities, entity.2 = c ∧ escapeChar c = entity.1) ∨ (c ∉ reserved ∧ escapeChar c = String.singleton c) := by
  by_cases listed : c ∈ reserved
  · left
    obtain ⟨entity, known, rfl⟩ := List.mem_map.mp listed
    have same : ∀ entity ∈ entities, escapeChar entity.2 = entity.1 := by decide
    exact ⟨entity, known, rfl, same entity known⟩
  · right
    refine ⟨listed, ?_⟩
    simp only [reserved, entities, List.map_cons, List.map_nil, List.mem_cons, List.not_mem_nil, or_false, not_or] at listed
    simp [escapeChar, listed]

theorem toList_escapeMarkup (text : String) :
    (escapeMarkup text).toList = text.toList.flatMap fun c => (escapeChar c).toList := by
  simp [escapeMarkup, String.toList_join, List.flatMap, Function.comp_def]

theorem unescape_escapeChars (chars : List Char) :
    unescape (chars.flatMap fun c => (escapeChar c).toList) = chars := by
  induction chars with
  | nil => simp [unescape]
  | cons c chars ih =>
      rw [List.flatMap_cons]
      rcases escapeChar_cases c with ⟨entity, known, rfl, written⟩ | ⟨free, written⟩
      · rw [written, unescape_append known, ih]
      · have plain : c ≠ '&' := fun same => free (same ▸ by decide)
        rw [written, String.toList_singleton, List.singleton_append, unescape_cons plain, ih]

@[simp] theorem unescapeMarkup_escapeMarkup (text : String) : unescapeMarkup (escapeMarkup text) = text := by
  rw [unescapeMarkup, toList_escapeMarkup, unescape_escapeChars, String.ofList_toList]

theorem escapeMarkup_inj {other : String} : escapeMarkup text = escapeMarkup other ↔ text = other := by
  refine ⟨fun same => ?_, congrArg escapeMarkup⟩
  rw [← unescapeMarkup_escapeMarkup text, same, unescapeMarkup_escapeMarkup]

theorem escapeMarkup_of_free (free : ∀ c ∈ text.toList, c ∉ reserved) : escapeMarkup text = text := by
  have alone : ∀ c ∈ text.toList, (escapeChar c).toList = [c] := by
    intro c member
    rcases escapeChar_cases c with ⟨entity, known, rfl, -⟩ | ⟨-, written⟩
    · exact absurd (List.mem_map_of_mem known) (free _ member)
    · rw [written, String.toList_singleton]
  apply String.toList_inj.mp
  rw [toList_escapeMarkup, List.flatMap_congr alone, List.flatMap_singleton']

/-- A text that is safe in markup: a character that markup gives a meaning is the ampersand in front of an entity. -/
structure IsMarkupSafe (markup : String) : Prop where
  absent : ∀ c ∈ ['<', '>', '"', '\''], c ∉ markup.toList
  entity : ∀ front rest, markup.toList = front ++ '&' :: rest → ∃ entity ∈ entities, entity.1.toList <+: '&' :: rest

/-- Where an entity stands in front, an ampersand is its first character or stands behind it. -/
theorem entity_of_split (known : entity ∈ entities) {tail front : List Char}
    (split : entity.1.toList ++ tail = front ++ '&' :: rest) :
    entity.1.toList <+: '&' :: rest ∨ ∃ later, tail = later ++ '&' :: rest := by
  have single : ∀ entity ∈ entities, '&' ∉ entity.1.toList.tail := by decide
  have others := single entity known
  cases front with
  | nil =>
      left
      rw [List.nil_append] at split
      exact ⟨tail, split⟩
  | cons first front =>
      right
      replace split := congrArg List.tail split
      rw [List.tail_append_of_ne_nil (entity_ne_nil known), List.cons_append, List.tail_cons] at split
      rcases List.append_eq_append_iff.mp split with ⟨later, -, behind⟩ | ⟨inner, inside, behind⟩
      · exact ⟨later, behind⟩
      · cases inner with
        | nil => exact ⟨[], by simpa using behind.symm⟩
        | cons ampersand inner =>
            obtain ⟨rfl, -⟩ := List.cons.inj behind
            exact absurd (by simp [inside]) others

theorem isMarkupSafe_escapeMarkup (text : String) : IsMarkupSafe (escapeMarkup text) where
  absent := by
    intro c special inside
    rw [toList_escapeMarkup] at inside
    obtain ⟨origin, -, written⟩ := List.mem_flatMap.mp inside
    rcases escapeChar_cases origin with ⟨entity, known, -, same⟩ | ⟨free, same⟩
    · have clean : ∀ entity ∈ entities, ∀ c ∈ ['<', '>', '"', '\''], c ∉ entity.1.toList := by simp [entities]
      exact clean entity known c special (same ▸ written)
    · rw [same, String.toList_singleton, List.mem_singleton] at written
      have among : ∀ c ∈ ['<', '>', '"', '\''], c ∈ reserved := by simp [reserved, entities]
      exact free (written ▸ among c special)
  entity := by
    rw [toList_escapeMarkup]
    intro front
    induction text.toList generalizing front with
    | nil => simp
    | cons c chars ih =>
        intro rest split
        rw [List.flatMap_cons] at split
        rcases escapeChar_cases c with ⟨entity, known, -, written⟩ | ⟨free, written⟩
        · rw [written] at split
          rcases entity_of_split known split with here | ⟨later, behind⟩
          · exact ⟨entity, known, here⟩
          · exact ih later rest behind
        · rw [written, String.toList_singleton, List.singleton_append] at split
          cases front with
          | nil =>
              obtain ⟨rfl, -⟩ := List.cons.inj split
              exact absurd (by decide) free
          | cons first front => exact ih front rest (List.cons.inj split).2

theorem IsNumeral.free (numeral : IsNumeral c) : c ∉ reserved := by
  have apart : ∀ c ∈ reserved, ¬IsNumeral c := by simp [reserved, entities, IsNumeral, numeralMarks]
  exact fun listed => apart c listed numeral

/-- What is written for a value is the text it prints as, escaped: values that are written as they are have no character
with an entity. -/
theorem Value.escaped_eq (v : Value) : v.escaped = escapeMarkup v.display := by
  cases v with
  | null => rfl
  | bool b => cases b <;> rfl
  | int n => exact (escapeMarkup_of_free fun c member => (isNumeral_int n.toInt c member).free).symm
  | float x => exact (escapeMarkup_of_free fun c member => (Number.Layout.plain.isNumeral_write x c member).free).symm
  | string s => rfl
  | list items => rfl
  | map entries => rfl

namespace Output

/-- Escaped output is safe and faithful for every value. What is added to the output is the escaped text of the value; it
holds a character that markup gives a meaning only where an entity begins; reading its entities gives what would be added
without escaping; and values that print differently add different texts. -/
theorem writeEscaped_faithful (output : Output) (v : Value) :
    ∃ added, (output.writeEscaped v).text = output.text ++ added ∧ added = escapeMarkup v.display ∧ IsMarkupSafe added ∧
      (output.writeValue v).text = output.text ++ unescapeMarkup added ∧ unescapeMarkup added = v.display ∧
      ∀ w : Value, (output.writeEscaped w).text = (output.writeEscaped v).text ↔ w.display = v.display := by
  have written (w : Value) : (output.writeEscaped w).text = output.text ++ escapeMarkup w.display := by
    rw [writeEscaped, writeText, w.escaped_eq]
  refine ⟨escapeMarkup v.display, written v, rfl, isMarkupSafe_escapeMarkup _, ?_, unescapeMarkup_escapeMarkup _, ?_⟩
  · rw [unescapeMarkup_escapeMarkup]
    rfl
  · intro w
    rw [written, written, String.append_right_inj, escapeMarkup_inj]

example : (writeEscaped ⟨"x"⟩ (.list [.string "<b>", .map [("k", .string "&lt;")]])).text =
    "x&lt;b&gt;, \x7bk: &amp;lt;\x7d" := by
  decide +kernel

end Output

end Templating
