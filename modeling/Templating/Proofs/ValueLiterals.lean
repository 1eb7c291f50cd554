import Templating.Proofs.IntegerOperators
import Templating.Proofs.Keyed
import Templating.Proofs.NumberTexts
import Templating.Code.Literal

/-! # Values spelled as code

Code builds a value from constructors, one inside another, so the code of a value says which value it is: it is read
back. Quoting keeps texts apart from the commas and brackets around them, and the literal of a double has a point or
an exponent, so that no double looks like a whole number.

The globals of a module are code made from JSON. It builds the values that the interpreter makes from the same JSON.
-/

namespace Templating

/-- A double that is a number. -/
def Number.IsFinite (x : Float) : Prop :=
  ∃ negative m e, Binary64.ofFloat x = .finite negative m e

mutual

/-- A value that code can spell: its doubles are numbers, and its maps keep their entries in order. -/
def Value.Spelled : Value → Prop
  | .float x => Number.IsFinite x
  | .list items => Value.AllSpelled items
  | .map entries => Ascending entries ∧ Value.EntriesSpelled entries
  | _ => True

/-- All items of a list can be spelled. -/
def Value.AllSpelled : List Value → Prop
  | [] => True
  | item :: items => item.Spelled ∧ Value.AllSpelled items

/-- All values under keys can be spelled. -/
def Value.EntriesSpelled : List (String × Value) → Prop
  | [] => True
  | (_, item) :: entries => item.Spelled ∧ Value.EntriesSpelled entries

end

namespace Value

theorem allSpelled_iff (items : List Value) : AllSpelled items ↔ ∀ item ∈ items, item.Spelled := by
  induction items with
  | nil => simp [AllSpelled]
  | cons item items ih => rw [AllSpelled, ih, List.forall_mem_cons]

theorem entriesSpelled_iff (entries : List (String × Value)) :
    EntriesSpelled entries ↔ ∀ entry ∈ entries, entry.2.Spelled := by
  induction entries with
  | nil => simp [EntriesSpelled]
  | cons entry entries ih => rw [EntriesSpelled, ih, List.forall_mem_cons]

end Value

namespace Code

/-- What stands behind a text that is in front. -/
def behind? (front : String) (text : List Char) : Option (List Char) :=
  if front.toList.isPrefixOf text then some (text.drop front.length) else none

/-- The digit that a hexadecimal digit stands for. -/
def hexValue (c : Char) : Nat :=
  if c.isDigit then c.toNat - '0'.toNat else c.toNat - 'a'.toNat + 10

/-- Reads what stands behind a backslash. -/
def readEscape? : List Char → Option (Char × List Char)
  | '0' :: rest => some ('\x00', rest)
  | 't' :: rest => some ('\t', rest)
  | 'r' :: rest => some ('\r', rest)
  | 'n' :: rest => some ('\n', rest)
  | '\\' :: rest => some ('\\', rest)
  | '"' :: rest => some ('"', rest)
  | 'u' :: '\x7b' :: rest =>
    let digits := rest.takeWhile fun c => c != '\x7d'
    some (Char.ofNat (digits.foldl (fun value c => value * 16 + hexValue c) 0), rest.drop (digits.length + 1))
  | _ => none

/-- Reads a quoted text behind its opening quote; `fuel` exceeds the number of characters. -/
def readQuoted? : Nat → List Char → Option (List Char × List Char)
  | 0, _ => none
  | fuel + 1, text =>
    match text with
    | [] => none
    | '"' :: rest => some ([], rest)
    | '\\' :: rest => do
      let (c, rest) ← readEscape? rest
      let (more, rest) ← readQuoted? fuel rest
      return (c :: more, rest)
    | c :: rest => do
      let (more, rest) ← readQuoted? fuel rest
      return (c :: more, rest)

/-- Reads a text between quotes. -/
def readString? (fuel : Nat) (text : List Char) : Option (String × List Char) := do
  let text ← behind? "\"" text
  let (chars, rest) ← readQuoted? fuel text
  return (String.ofList chars, rest)

/-- Reads the argument of a scalar. The literal of a double has a point or an exponent. -/
def readScalar? (name : String) (word : List Char) : Option Value :=
  if name = "Bool" then
    if word = "true".toList then some (.bool true) else if word = "false".toList then some (.bool false) else none
  else if name = "Int" then (Number.readWord? word).map .int
  else if name = "Float" then
    if word.any fun c => c == '.' || c == 'e' then (Number.readFloat? word).map .float else none
  else none

/-- Reads what stands between commas up to the closing bracket; `fuel` exceeds the number of items. -/
def readListed? {α : Type} (readItem? : List Char → Option (α × List Char)) :
    Nat → List Char → Option (List α × List Char)
  | 0, _ => none
  | fuel + 1, text =>
    match behind? "]" text with
    | some rest => some ([], rest)
    | none => do
      let (item, rest) ← readItem? text
      match behind? ", " rest with
      | some rest => do
        let (items, rest) ← readListed? readItem? fuel rest
        return (item :: items, rest)
      | none => do
        let rest ← behind? "]" rest
        return ([item], rest)

/-- Reads a pair of a key and a value. -/
def readPair? (readItem? : List Char → Option (Value × List Char)) (fuel : Nat) (text : List Char) :
    Option ((String × Value) × List Char) := do
  let text ← behind? "(" text
  let (key, rest) ← readString? fuel text
  let rest ← behind? ".to_string(), " rest
  let (item, rest) ← readItem? rest
  let rest ← behind? ")" rest
  return ((key, item), rest)

/-- Reads the arguments of a constructor and the closing parenthesis. -/
def readCall? (readItem? : List Char → Option (Value × List Char)) (fuel : Nat) (name : String) (text : List Char) :
    Option (Value × List Char) :=
  if name = "from" then do
    let (s, rest) ← readString? fuel text
    let rest ← behind? ")" rest
    return (.string s, rest)
  else if name = "List" then do
    let text ← behind? "vec![" text
    let (items, rest) ← readListed? readItem? fuel text
    let rest ← behind? ")" rest
    return (.list items, rest)
  else if name = "Map" then do
    let text ← behind? "::std::collections::BTreeMap::from([" text
    let (entries, rest) ← readListed? (readPair? readItem? fuel) fuel text
    let rest ← behind? "))" rest
    return (.ofPairs entries, rest)
  else do
    let word := text.takeWhile fun c => c != ')'
    let value ← readScalar? name word
    let rest ← behind? ")" (text.drop word.length)
    return (value, rest)

/-- Reads the code of a value; `fuel` is at least the number of its characters. -/
def readValue? (path : String) : Nat → List Char → Option (Value × List Char)
  | 0, _ => none
  | fuel + 1, text => do
    let text ← behind? (path ++ "::") text
    match behind? "Null" text with
    | some rest => return (.null, rest)
    | none => do
      let name := String.ofList (text.takeWhile Char.isAlpha)
      let text ← behind? "(" (text.dropWhile Char.isAlpha)
      readCall? (readValue? path fuel) fuel name text

/-- The value that a code spells. -/
def spelled? (path code : String) : Option Value :=
  match readValue? path code.length code.toList with
  | some (value, []) => some value
  | _ => none

theorem some_bind {α β : Type} (a : α) (f : α → Option β) : (some a >>= f) = f a := rfl

theorem behind?_append (front : String) (rest : List Char) : behind? front (front.toList ++ rest) = some rest := by
  rw [behind?, if_pos (List.isPrefixOf_iff_prefix.mpr (List.prefix_append _ _)), ← String.length_toList, List.drop_left]

theorem behind?_of_head {front : String} {first c : Char} {more rest : List Char} (begins : front.toList = first :: more)
    (other : first ≠ c) : behind? front (c :: rest) = none := by
  rw [behind?, begins, List.isPrefixOf_cons_cons, beq_eq_false_iff_ne.mpr other]
  rfl

theorem hexValue_digitChar {d : Nat} (bound : d < 16) : hexValue d.digitChar = d ∧ d.digitChar ≠ '\x7d' := by
  interval_cases d <;> decide

theorem hexValue_toDigits (n : Nat) :
    (Nat.toDigits 16 n).foldl (fun value c => value * 16 + hexValue c) 0 = n ∧ ∀ c ∈ Nat.toDigits 16 n, c ≠ '\x7d' := by
  induction n using Nat.strongRecOn with
  | ind n ih =>
      rw [Nat.toDigits_eq_if (by decide)]
      split
      · rename_i digit
        obtain ⟨value, other⟩ := hexValue_digitChar digit
        exact ⟨by simp [value], List.forall_mem_singleton.mpr other⟩
      · obtain ⟨value, others⟩ := ih (n / 16) (by omega)
        obtain ⟨last, other⟩ := hexValue_digitChar (Nat.mod_lt n (by decide : 0 < 16))
        refine ⟨?_, List.forall_mem_append.mpr ⟨others, List.forall_mem_singleton.mpr other⟩⟩
        rw [List.foldl_append, value, List.foldl_cons, List.foldl_nil, last]
        omega

theorem readEscape?_hexadecimal (c : Char) (rest : List Char) :
    readEscape? ('u' :: '\x7b' :: ((Text.hexadecimal c.toNat).toList ++ '\x7d' :: rest)) = some (c, rest) := by
  obtain ⟨value, others⟩ := hexValue_toDigits c.toNat
  have digits : ((Text.hexadecimal c.toNat).toList ++ '\x7d' :: rest).takeWhile (fun c => c != '\x7d') =
      Nat.toDigits 16 c.toNat := by
    rw [Text.hexadecimal, String.toList_ofList,
      List.takeWhile_append_of_pos fun c member => bne_iff_ne.mpr (others c member)]
    simp
  rw [readEscape?, digits, value, Char.ofNat_toNat, Text.hexadecimal, String.toList_ofList, ← List.drop_drop, List.drop_left]
  rfl

theorem readQuoted?_quoteChar (c : Char) (fuel : Nat) (rest : List Char) :
    readQuoted? (fuel + 1) ((Text.quoteChar c).toList ++ rest) =
      (readQuoted? fuel rest).map fun read => (c :: read.1, read.2) := by
  have escaped {text : List Char} (read : readEscape? text = some (c, rest)) :
      readQuoted? (fuel + 1) ('\\' :: text) = (readQuoted? fuel rest).map fun read => (c :: read.1, read.2) := by
    rw [readQuoted?]
    dsimp only
    rw [read, some_bind]
    cases readQuoted? fuel rest <;> rfl
  unfold Text.quoteChar
  split_ifs with null tab carriage newline backslash quotes printable
  · exact escaped (by rw [null]; rfl)
  · exact escaped (by rw [tab]; rfl)
  · exact escaped (by rw [carriage]; rfl)
  · exact escaped (by rw [newline]; rfl)
  · exact escaped (by rw [backslash]; rfl)
  · exact escaped (by rw [quotes]; rfl)
  · rw [String.toList_singleton, List.singleton_append, readQuoted?]
    · cases readQuoted? fuel rest <;> rfl
    · exact quotes
    · exact backslash
  · rw [String.toList_append, String.toList_append, List.append_assoc, List.append_assoc]
    exact escaped (readEscape?_hexadecimal c rest)

theorem readQuoted?_quoted (chars rest : List Char) {fuel : Nat} (enough : chars.length < fuel) :
    readQuoted? fuel ((chars.map Text.quoteChar).flatMap String.toList ++ '"' :: rest) = some (chars, rest) := by
  induction chars generalizing fuel with
  | nil =>
      obtain ⟨fuel, rfl⟩ : ∃ more, fuel = more + 1 := ⟨fuel - 1, by simp at enough; omega⟩
      rfl
  | cons c chars ih =>
      obtain ⟨fuel, rfl⟩ : ∃ more, fuel = more + 1 := ⟨fuel - 1, by simp at enough; omega⟩
      rw [List.map_cons, List.flatMap_cons, List.append_assoc, readQuoted?_quoteChar, ih (by simpa using enough)]
      rfl

theorem readString?_quote (text : String) (rest : List Char) {fuel : Nat} (enough : text.length < fuel) :
    readString? fuel ((Text.quote text).toList ++ rest) = some (text, rest) := by
  have chars : (Text.quote text).toList ++ rest =
      "\"".toList ++ ((text.toList.map Text.quoteChar).flatMap String.toList ++ '"' :: rest) := by
    simp [Text.quote, String.toList_join]
  rw [chars, readString?, behind?_append, some_bind, readQuoted?_quoted _ _ (by rwa [String.length_toList]), some_bind]
  exact congrArg (fun text => some (text, rest)) String.ofList_toList

section

variable {path : String}

/-- The constructors with arguments. -/
def constructors : List String :=
  ["Bool", "Int", "Float", "from", "List", "Map"]

theorem readValue?_call {name : String} (known : name ∈ constructors) (fuel : Nat) (text : List Char) :
    readValue? path (fuel + 1) ((path ++ "::").toList ++ (name.toList ++ '(' :: text)) =
      readCall? (readValue? path fuel) fuel name text := by
  have letters : ∀ c ∈ name.toList, c.isAlpha = true := by
    revert known name
    simp [constructors]
  have other : behind? "Null" (name.toList ++ '(' :: text) = none := by
    simp only [constructors, List.mem_cons, List.not_mem_nil, or_false] at known
    rcases known with rfl | rfl | rfl | rfl | rfl | rfl <;> exact behind?_of_head rfl (by decide)
  have takes : (name.toList ++ '(' :: text).takeWhile Char.isAlpha = name.toList := by
    rw [List.takeWhile_append_of_pos letters]
    simp
  have drops : (name.toList ++ '(' :: text).dropWhile Char.isAlpha = "(".toList ++ text := by
    rw [List.dropWhile_append_of_pos letters]
    rfl
  rw [readValue?, behind?_append, some_bind, other]
  dsimp only
  rw [takes, drops, String.ofList_toList, behind?_append, some_bind]

theorem readCall?_scalar {readItem? : List Char → Option (Value × List Char)} {name : String} {word : List Char}
    {value : Value} (scalar : name = "Bool" ∨ name = "Int" ∨ name = "Float") (inside : ∀ c ∈ word, c ≠ ')')
    (read : readScalar? name word = some value) (fuel : Nat) (rest : List Char) :
    readCall? readItem? fuel name (word ++ ')' :: rest) = some (value, rest) := by
  have takes : (word ++ ')' :: rest).takeWhile (fun c => c != ')') = word := by
    rw [List.takeWhile_append_of_pos fun c member => bne_iff_ne.mpr (inside c member)]
    simp
  have others : name ≠ "from" ∧ name ≠ "List" ∧ name ≠ "Map" := by
    rcases scalar with rfl | rfl | rfl <;> decide
  rw [readCall?, if_neg others.1, if_neg others.2.1, if_neg others.2.2]
  dsimp only
  rw [takes, read, some_bind, List.drop_left]
  exact congrArg (· >>= _) (behind?_append ")" rest)

/-- Items between commas are read back, if each of them is and none begins with the closing bracket. -/
theorem readListed?_commaSeparated {α : Type} {readItem? : List Char → Option (α × List Char)} {items : List α}
    {texts : List String}
    (each : List.Forall₂ (fun item text => ∀ rest, readItem? (text.toList ++ rest) = some (item, rest) ∧
      behind? "]" (text.toList ++ rest) = none) items texts)
    {fuel : Nat} (enough : items.length < fuel) (rest : List Char) :
    readListed? readItem? fuel ((commaSeparated texts).toList ++ ("]".toList ++ rest)) = some (items, rest) := by
  induction each generalizing fuel with
  | nil =>
      obtain ⟨fuel, rfl⟩ : ∃ more, fuel = more + 1 := ⟨fuel - 1, by simp at enough; omega⟩
      rfl
  | @cons item text items texts first others ih =>
      obtain ⟨fuel, rfl⟩ : ∃ more, fuel = more + 1 := ⟨fuel - 1, by simp at enough; omega⟩
      rw [commaSeparated]
      cases others with
      | nil =>
          rw [String.intercalate_singleton, readListed?, (first _).2, (first _).1]
          rfl
      | @cons next text' items texts second others =>
          rw [String.intercalate_cons_cons, String.toList_append, String.toList_append, List.append_assoc, List.append_assoc,
            readListed?, (first _).2, (first _).1]
          dsimp only
          rw [some_bind]
          dsimp only
          have later := ih (show (next :: items).length < fuel by simpa using enough)
          rw [commaSeparated] at later
          rw [behind?_append]
          dsimp only
          rw [later]
          rfl

theorem valueLiterals_eq (items : List Value) : valueLiterals path items = items.map (valueLiteral path) := by
  induction items with
  | nil => rfl
  | cons item items ih => rw [valueLiterals, ih, List.map_cons]

theorem entryLiterals_eq (entries : List (String × Value)) :
    entryLiterals path entries = entries.map fun entry => (entry.1, valueLiteral path entry.2) := by
  induction entries with
  | nil => rfl
  | cons entry entries ih => rw [entryLiterals, ih, List.map_cons]

theorem length_le_commaSeparated {parts : List String} {part : String} (member : part ∈ parts) :
    part.length ≤ (commaSeparated parts).length := by
  rw [commaSeparated]
  induction parts with
  | nil => cases member
  | cons first parts ih =>
      cases parts with
      | nil =>
          rw [List.mem_singleton.mp member, String.intercalate_singleton]
      | cons second parts =>
          rw [String.intercalate_cons_cons, String.length_append, String.length_append]
          obtain rfl | later := List.mem_cons.mp member
          · omega
          · have := ih later
            omega

theorem length_parts_le (parts : List String) : parts.length ≤ (commaSeparated parts).length + 1 := by
  rw [commaSeparated]
  induction parts with
  | nil => exact Nat.zero_le _
  | cons first parts ih =>
      cases parts with
      | nil => exact Nat.le_add_left _ _
      | cons second parts =>
          have comma : ", ".length = 2 := rfl
          rw [String.intercalate_cons_cons, String.length_append, String.length_append, List.length_cons, comma]
          omega

end

theorem not_closing {chars : List Char} (numerals : ∀ c ∈ chars, IsNumeral c) : ∀ c ∈ chars, c ≠ ')' := by
  rintro c member rfl
  exact absurd (numerals _ member) (by simp [IsNumeral, numeralMarks])

theorem length_quote (text : String) : text.length + 2 ≤ (Text.quote text).length := by
  have one (c : Char) : 1 ≤ (Text.quoteChar c).length := by
    have braced : 1 ≤ ("\\u\x7b" ++ Text.hexadecimal c.toNat ++ "\x7d").length := by
      rw [String.length_append]
      exact Nat.le_add_left 1 _
    unfold Text.quoteChar
    split_ifs
    · decide
    · decide
    · decide
    · decide
    · decide
    · decide
    · exact String.length_singleton.ge
    · exact braced
  have chars (chars : List Char) : chars.length ≤ (String.join (chars.map Text.quoteChar)).length := by
    induction chars with
    | nil => exact Nat.zero_le _
    | cons c chars ih =>
        rw [List.map_cons, String.join_cons, String.length_append, List.length_cons]
        have := one c
        omega
  have inside := chars text.toList
  have mark : "\"".length = 1 := rfl
  rw [String.length_toList] at inside
  rw [Text.quote, String.length_append, String.length_append, mark]
  omega

theorem length_entryLiteral (key code : String) :
    key.length < (entryLiteral (key, code)).length ∧ code.length < (entryLiteral (key, code)).length := by
  have size := length_quote key
  rw [entryLiteral, String.length_append, String.length_append, String.length_append, String.length_append]
  dsimp only
  omega

theorem readPair?_entryLiteral {readItem? : List Char → Option (Value × List Char)} {entry : String × Value} {code : String}
    (read : ∀ rest, readItem? (code.toList ++ rest) = some (entry.2, rest)) {fuel : Nat} (enough : entry.1.length < fuel)
    (rest : List Char) :
    readPair? readItem? fuel ((entryLiteral (entry.1, code)).toList ++ rest) = some (entry, rest) := by
  have text : (entryLiteral (entry.1, code)).toList ++ rest = "(".toList ++ ((Text.quote entry.1).toList ++
      (".to_string(), ".toList ++ (code.toList ++ (")".toList ++ rest)))) := by
    simp [entryLiteral]
  rw [text, readPair?, behind?_append, some_bind, readString?_quote _ _ enough, some_bind]
  dsimp only
  rw [behind?_append, some_bind, read, some_bind]
  dsimp only
  rw [behind?_append]
  rfl

theorem behind?_entryLiteral (entry : String × String) (rest : List Char) :
    behind? "]" ((entryLiteral entry).toList ++ rest) = none := by
  have chars : (entryLiteral entry).toList ++ rest =
      '(' :: ((Text.quote entry.1 ++ ".to_string(), " ++ entry.2 ++ ")").toList ++ rest) := by
    simp [entryLiteral]
  rw [chars]
  exact behind?_of_head rfl (by decide)

/-- The code of a value does not begin with a closing bracket, if the path does not. -/
theorem behind?_valueLiteral {path : String} (opens : path.toList.head? ≠ some ']') (value : Value) (rest : List Char) :
    behind? "]" ((valueLiteral path value).toList ++ rest) = none := by
  have begins : ∃ more, (valueLiteral path value).toList ++ rest = path.toList ++ ':' :: more := by
    have behind (tail : String) {code : String} (built : code.toList = path.toList ++ ':' :: tail.toList) :
        ∃ more, code.toList ++ rest = path.toList ++ ':' :: more :=
      ⟨tail.toList ++ rest, by rw [built, List.append_assoc, List.cons_append]⟩
    cases value with
    | null => exact behind ":Null" (by simp [valueLiteral])
    | bool b => exact behind (":Bool(" ++ boolLiteral b ++ ")") (by simp [valueLiteral])
    | int n => exact behind (":Int(" ++ toString n.toInt ++ ")") (by simp [valueLiteral])
    | float x => exact behind (":Float(" ++ Number.Layout.literal.write x ++ ")") (by simp [valueLiteral])
    | string s => exact behind (":from(" ++ Text.quote s ++ ")") (by simp [valueLiteral])
    | list items =>
        exact behind (":List(vec![" ++ commaSeparated (valueLiterals path items) ++ "])")
          (by simp [valueLiteral, listLiteral])
    | map entries =>
        exact behind (":Map(::std::collections::BTreeMap::from([" ++
          commaSeparated ((entryLiterals path entries).map entryLiteral) ++ "]))") (by simp [valueLiteral, mapLiteral])
  obtain ⟨more, chars⟩ := begins
  rw [chars]
  cases characters : path.toList with
  | nil => exact behind?_of_head rfl (by decide)
  | cons first others =>
      rw [characters] at opens
      refine behind?_of_head rfl ?_
      rintro rfl
      exact opens rfl

theorem readValue?_scalar {path name : String} {word : List Char} {value : Value}
    (scalar : name = "Bool" ∨ name = "Int" ∨ name = "Float") (inside : ∀ c ∈ word, c ≠ ')')
    (read : readScalar? name word = some value) (fuel : Nat) (rest : List Char) :
    readValue? path (fuel + 1) ((path ++ "::").toList ++ (name.toList ++ '(' :: (word ++ ')' :: rest))) =
      some (value, rest) := by
  have known : name ∈ constructors := by
    rcases scalar with rfl | rfl | rfl <;> decide
  rw [readValue?_call known, readCall?_scalar scalar inside read]

theorem readValue?_null (path : String) (fuel : Nat) (rest : List Char) :
    readValue? path (fuel + 1) ((valueLiteral path .null).toList ++ rest) = some (.null, rest) := by
  have text : (valueLiteral path .null).toList ++ rest = (path ++ "::").toList ++ ("Null".toList ++ rest) := by
    simp [valueLiteral]
  rw [text, readValue?, behind?_append, some_bind, behind?_append]
  rfl

theorem readValue?_bool (path : String) (b : Bool) (fuel : Nat) (rest : List Char) :
    readValue? path (fuel + 1) ((valueLiteral path (.bool b)).toList ++ rest) = some (.bool b, rest) := by
  have text : (valueLiteral path (.bool b)).toList ++ rest =
      (path ++ "::").toList ++ ("Bool".toList ++ '(' :: ((boolLiteral b).toList ++ ')' :: rest)) := by
    simp [valueLiteral]
  have inside : ∀ c ∈ (boolLiteral b).toList, c ≠ ')' := by cases b <;> simp [boolLiteral]
  rw [text]
  refine readValue?_scalar (.inl rfl) inside ?_ fuel rest
  cases b <;> simp [readScalar?, boolLiteral]

theorem readValue?_int (path : String) (n : Int64) (fuel : Nat) (rest : List Char) :
    readValue? path (fuel + 1) ((valueLiteral path (.int n)).toList ++ rest) = some (.int n, rest) := by
  have text : (valueLiteral path (.int n)).toList ++ rest =
      (path ++ "::").toList ++ ("Int".toList ++ '(' :: ((toString n.toInt).toList ++ ')' :: rest)) := by
    simp [valueLiteral]
  rw [text]
  refine readValue?_scalar (.inr (.inl rfl)) (not_closing (isNumeral_int n.toInt)) ?_ fuel rest
  rw [readScalar?, if_neg (by decide), if_pos rfl, Number.readWord?_toString]
  rfl

theorem readValue?_float (path : String) {x : Float} (finite : Number.IsFinite x) (fuel : Nat) (rest : List Char) :
    readValue? path (fuel + 1) ((valueLiteral path (.float x)).toList ++ rest) = some (.float x, rest) := by
  have text : (valueLiteral path (.float x)).toList ++ rest = (path ++ "::").toList ++ ("Float".toList ++
      '(' :: ((Number.Layout.literal.write x).toList ++ ')' :: rest)) := by
    simp [valueLiteral]
  obtain ⟨negative, m, e, taken⟩ := finite
  have marked : (Number.Layout.literal.write x).toList.any (fun c => c == '.' || c == 'e') = true := by
    simpa using Number.Layout.literal_marked taken
  rw [text]
  refine readValue?_scalar (.inr (.inr rfl)) (not_closing (Number.Layout.literal.isNumeral_write x)) ?_ fuel rest
  rw [readScalar?, if_neg (by decide), if_neg (by decide), if_pos rfl, if_pos marked,
    Number.Layout.readFloat?_write _ taken]
  rfl

theorem readValue?_string (path s : String) {fuel : Nat} (enough : s.length < fuel) (rest : List Char) :
    readValue? path (fuel + 1) ((valueLiteral path (.string s)).toList ++ rest) = some (.string s, rest) := by
  have text : (valueLiteral path (.string s)).toList ++ rest =
      (path ++ "::").toList ++ ("from".toList ++ '(' :: ((Text.quote s).toList ++ (")".toList ++ rest))) := by
    simp [valueLiteral]
  rw [text, readValue?_call (by decide), readCall?, if_pos rfl, readString?_quote s _ enough, some_bind]
  dsimp only
  rw [behind?_append]
  rfl

theorem readValue?_list {path : String} {items : List Value} {fuel : Nat}
    (each : ∀ item ∈ items, ∀ rest, readValue? path fuel ((valueLiteral path item).toList ++ rest) = some (item, rest) ∧
      behind? "]" ((valueLiteral path item).toList ++ rest) = none)
    (enough : items.length < fuel) (rest : List Char) :
    readValue? path (fuel + 1) ((valueLiteral path (.list items)).toList ++ rest) = some (.list items, rest) := by
  have text : (valueLiteral path (.list items)).toList ++ rest = (path ++ "::").toList ++ ("List".toList ++
      '(' :: ("vec![".toList ++ ((commaSeparated (items.map (valueLiteral path))).toList ++
        ("]".toList ++ (")".toList ++ rest))))) := by
    simp [valueLiteral, listLiteral, valueLiterals_eq]
  have listed := readListed?_commaSeparated (List.forall₂_map_right_iff.mpr (List.forall₂_same.mpr each)) enough
    (")".toList ++ rest)
  rw [text, readValue?_call (by decide), readCall?, if_neg (by decide), if_pos rfl, behind?_append, some_bind, listed,
    some_bind]
  dsimp only
  rw [behind?_append]
  rfl

theorem readValue?_map {path : String} {entries : List (String × Value)} (ascending : Ascending entries) {fuel : Nat}
    (each : ∀ entry ∈ entries, entry.1.length < fuel ∧
      ∀ rest, readValue? path fuel ((valueLiteral path entry.2).toList ++ rest) = some (entry.2, rest))
    (enough : entries.length < fuel) (rest : List Char) :
    readValue? path (fuel + 1) ((valueLiteral path (.map entries)).toList ++ rest) = some (.map entries, rest) := by
  have text : (valueLiteral path (.map entries)).toList ++ rest = (path ++ "::").toList ++ ("Map".toList ++
      '(' :: ("::std::collections::BTreeMap::from([".toList ++
        ((commaSeparated (entries.map fun entry => entryLiteral (entry.1, valueLiteral path entry.2))).toList ++
          ("]".toList ++ ("))".toList ++ rest))))) := by
    simp [valueLiteral, mapLiteral, entryLiterals_eq, Function.comp_def]
  have listed := readListed?_commaSeparated (List.forall₂_map_right_iff.mpr (List.forall₂_same.mpr fun entry member rest =>
    ⟨readPair?_entryLiteral (each entry member).2 (each entry member).1 rest, behind?_entryLiteral _ rest⟩)) enough
    ("))".toList ++ rest)
  rw [text, readValue?_call (by decide), readCall?, if_neg (by decide), if_neg (by decide), if_pos rfl, behind?_append,
    some_bind, listed, some_bind]
  dsimp only
  rw [behind?_append, some_bind, Value.ofPairs, sortByKey_of_ascending ascending]
  rfl

theorem readValue?_valueLiteral {path : String} (opens : path.toList.head? ≠ some ']') {value : Value}
    (spelled : value.Spelled) {fuel : Nat} (enough : (valueLiteral path value).length ≤ fuel) (rest : List Char) :
    readValue? path fuel ((valueLiteral path value).toList ++ rest) = some (value, rest) := by
  -- By the fuel and not by the value: what stands inside a list or a map is shorter than the whole.
  induction fuel generalizing value rest with
  | zero =>
      cases value <;> simp [valueLiteral, listLiteral, mapLiteral] at enough
  | succ fuel ih =>
      cases value with
      | null => exact readValue?_null path fuel rest
      | bool b => exact readValue?_bool path b fuel rest
      | int n => exact readValue?_int path n fuel rest
      | float x => exact readValue?_float path spelled fuel rest
      | string s =>
          have size := length_quote s
          have opening : "::from(".length = 7 := rfl
          rw [valueLiteral, String.length_append, String.length_append, String.length_append] at enough
          exact readValue?_string path s (by omega) rest
      | list items =>
          have count := length_parts_le (items.map (valueLiteral path))
          have opening : "::List(vec![".length = 12 := rfl
          rw [List.length_map] at count
          rw [valueLiteral, listLiteral, valueLiterals_eq, String.length_append, String.length_append,
            String.length_append] at enough
          refine readValue?_list (fun item member rest => ⟨?_, behind?_valueLiteral opens item rest⟩) (by omega) rest
          have part := length_le_commaSeparated (List.mem_map_of_mem (f := valueLiteral path) member)
          exact ih ((Value.allSpelled_iff items).mp spelled item member) (by omega) rest
      | map entries =>
          have count := length_parts_le ((entryLiterals path entries).map entryLiteral)
          have opening : 3 ≤ "::Map(::std::collections::BTreeMap::from([".length := by decide
          rw [List.length_map, entryLiterals_eq, List.length_map] at count
          rw [valueLiteral, mapLiteral, entryLiterals_eq, String.length_append, String.length_append,
            String.length_append] at enough
          have part {entry : String × Value} (member : entry ∈ entries) :
              (entryLiteral (entry.1, valueLiteral path entry.2)).length ≤ fuel := by
            have := length_le_commaSeparated (List.mem_map_of_mem (f := entryLiteral) (List.mem_map_of_mem
              (f := fun entry : String × Value => (entry.1, valueLiteral path entry.2)) member))
            omega
          refine readValue?_map spelled.1 (fun entry member => ?_) (by omega) rest
          have whole := length_entryLiteral entry.1 (valueLiteral path entry.2)
          have := part member
          exact ⟨by omega, ih ((Value.entriesSpelled_iff entries).mp spelled.2 entry member) (by omega)⟩

theorem spelled?_valueLiteral {path : String} (opens : path.toList.head? ≠ some ']') {value : Value}
    (spelled : value.Spelled) :
    spelled? path (valueLiteral path value) = some value := by
  have read := readValue?_valueLiteral opens spelled le_rfl []
  rw [List.append_nil] at read
  rw [spelled?, read]

end Code

mutual

/-- The doubles of a JSON text are numbers. -/
def Json.Finite : Json → Prop
  | .number (.float x) => Number.IsFinite x
  | .array items => Json.AllFinite items
  | .object pairs => Json.PairsFinite pairs
  | _ => True

/-- The doubles of all items are numbers. -/
def Json.AllFinite : List Json → Prop
  | [] => True
  | item :: items => item.Finite ∧ Json.AllFinite items

/-- The doubles under all keys are numbers. -/
def Json.PairsFinite : List (String × Json) → Prop
  | [] => True
  | (_, item) :: pairs => item.Finite ∧ Json.PairsFinite pairs

end

theorem Number.isFinite_ofNat {n : Nat} (bound : n < 2 ^ 64) (wide : narrow? n = none) : IsFinite (Float.ofNat n) := by
  have positive : 0 < n := by
    by_contra zero
    obtain ⟨m, fits, -⟩ := narrow?_of_range (n := (n : Int)) (by omega) (by omega)
    rw [wide] at fits
    cases fits
  obtain ⟨m, e, pos, kept, -, -⟩ := unpack_ofNat positive bound
  exact ofFloat_of_unpack kept

mutual

theorem Json.Finite.spelled : ∀ {json : Json}, json.Finite → json.toValue.Spelled
  | .null, _ | .bool _, _ | .string _, _ => trivial
  | .number (.float _), finite => finite
  | .number (.negative _), _ => trivial
  | .number (.natural n), _ => by
      rw [Json.toValue]
      split
      · trivial
      · rename_i wide
        exact Number.isFinite_ofNat n.toNat_lt wide
  | .array _, finite => Json.AllFinite.spelled finite
  | .object _, finite =>
      have spelled := (Value.entriesSpelled_iff _).mp (Json.PairsFinite.spelled finite)
      ⟨ascending_sortByKey _, (Value.entriesSpelled_iff _).mpr fun entry member => spelled entry (mem_sortByKey member)⟩

theorem Json.AllFinite.spelled : ∀ {items : List Json}, Json.AllFinite items → Value.AllSpelled (Json.toValues items)
  | [], _ => trivial
  | _ :: _, ⟨first, others⟩ => ⟨first.spelled, others.spelled⟩

theorem Json.PairsFinite.spelled : ∀ {pairs : List (String × Json)}, Json.PairsFinite pairs →
    Value.EntriesSpelled (Json.toPairs pairs)
  | [], _ => trivial
  | _ :: _, ⟨first, others⟩ => ⟨first.spelled, others.spelled⟩

end

namespace Code

mutual

theorem jsonLiteral_eq (path : String) : ∀ json, jsonLiteral path json = valueLiteral path json.toValue
  | .null | .bool _ | .string _ => by simp only [jsonLiteral, Json.toValue, valueLiteral]
  | .number n => by
      rw [jsonLiteral, Json.toValue]
      cases n.toInt? <;> rfl
  | .array items => by rw [jsonLiteral, Json.toValue, valueLiteral, jsonLiterals_eq path items]
  | .object pairs => by
      have codes (entries : List (String × Value)) :
          entryLiterals path entries = entries.map (Prod.map id (valueLiteral path)) := entryLiterals_eq entries
      rw [jsonLiteral, Json.toValue, Value.ofPairs, valueLiteral, pairLiterals_eq path pairs, codes, codes, sortByKey_map]

theorem jsonLiterals_eq (path : String) : ∀ items, jsonLiterals path items = valueLiterals path (Json.toValues items)
  | [] => rfl
  | item :: items => by
      rw [jsonLiterals, Json.toValues, valueLiterals, jsonLiteral_eq path item, jsonLiterals_eq path items]

theorem pairLiterals_eq (path : String) : ∀ pairs, pairLiterals path pairs = entryLiterals path (Json.toPairs pairs)
  | [] => rfl
  | (key, item) :: pairs => by
      rw [pairLiterals, Json.toPairs, entryLiterals, jsonLiteral_eq path item, pairLiterals_eq path pairs]

end

/-- The code of a global spells the value that the global has at run time, so two globals have the same code exactly if they
have the same value. -/
theorem globals_spelled {json other : Json} (finite : json.Finite) (otherFinite : other.Finite) :
    spelled? "::stencil_runtime::Value" (jsonLiteral "::stencil_runtime::Value" json) = some json.toValue ∧
      (jsonLiteral "::stencil_runtime::Value" json = jsonLiteral "::stencil_runtime::Value" other ↔
        json.toValue = other.toValue) := by
  have opens : "::stencil_runtime::Value".toList.head? ≠ some ']' := by decide
  have read {json : Json} (finite : json.Finite) :
      spelled? "::stencil_runtime::Value" (jsonLiteral "::stencil_runtime::Value" json) = some json.toValue := by
    rw [jsonLiteral_eq, spelled?_valueLiteral opens finite.spelled]
  refine ⟨read finite, fun same => ?_, fun same => ?_⟩
  · have := (read finite).symm.trans ((congrArg _ same).trans (read otherFinite))
    exact Option.some.inj this
  · rw [jsonLiteral_eq, jsonLiteral_eq, same]

/-- A number above the words, a number below zero and a text with the marks of code, under keys out of order. -/
def mixedGlobal (last : JsonNumber) : Json :=
  .array [.object [("ids", .array [.number (.natural 9223372036854775808), .number (.negative (-1)), .null]),
    ("a\"", .string "]), (\"b\"\n")], .number last]

/-- Two as a double and two as a whole number are different values with different codes. -/
theorem mixedGlobals_apart :
    (mixedGlobal (.float 2.0)).Finite ∧ (mixedGlobal (.natural 2)).Finite ∧
      spelled? "::stencil_runtime::Value" (jsonLiteral "::stencil_runtime::Value" (mixedGlobal (.float 2.0))) =
        some (mixedGlobal (.float 2.0)).toValue ∧
      jsonLiteral "::stencil_runtime::Value" (mixedGlobal (.float 2.0)) ≠
        jsonLiteral "::stencil_runtime::Value" (mixedGlobal (.natural 2)) := by
  have double : (mixedGlobal (.float 2.0)).Finite :=
    ⟨⟨⟨trivial, trivial, trivial, trivial⟩, trivial, trivial⟩, ⟨false, 2 ^ 52, -51, by rfl⟩, trivial⟩
  have whole : (mixedGlobal (.natural 2)).Finite :=
    ⟨⟨⟨trivial, trivial, trivial, trivial⟩, trivial, trivial⟩, trivial, trivial⟩
  obtain ⟨spelled, same⟩ := globals_spelled double whole
  refine ⟨double, whole, spelled, fun equal => ?_⟩
  have values := same.mp equal
  simp only [mixedGlobal, Json.toValue, Json.toValues, Value.list.injEq, List.cons.injEq] at values
  have word : (JsonNumber.natural 2).toInt? = some 2 := by decide
  obtain ⟨-, last, -⟩ := values
  rw [word] at last
  cases last

end Code

end Templating
