import Templating.Proofs.IntegerOperators
import Templating.Proofs.Keyed

/-! # Containers

Lists, texts and maps are gone through, indexed, measured and tested by functions of their own. They agree: the entries of
a container are as many as its length says, every entry is found under its key, no key stands twice, and a container is
empty, and does not hold, exactly if it has no entries. Positions of lists also count from the end.
-/

namespace Templating

namespace Value

open Number

/-- A list, a text, or a map with its keys in order. -/
inductive IsContainer : Value → Prop where
  | list (items : List Value) : IsContainer (list items)
  | string (s : String) : IsContainer (string s)
  | map {pairs : List (String × Value)} : Ascending pairs → IsContainer (map pairs)

/-- What the entries of a container have in common with what it is asked otherwise. -/
structure Agrees (c : Value) (entries : List (Value × Value)) : Prop where
  counted : ∃ n : Int64, Builtin.length.call [c] = .ok (int n) ∧ n.toInt = entries.length
  found : ∀ {key value : Value}, (key, value) ∈ entries → c.index key = .ok value
  apart : (entries.map Prod.fst).Nodup
  empty : c.isEmpty = true ↔ entries = []
  holds : c.truthy = true ↔ entries ≠ []

/-- Items under their positions. -/
def numbered (items : List Value) : List (Value × Value) :=
  items.zipIdx.map fun pair => (ofNat pair.2, pair.1)

section

variable {items : List Value}

theorem entries_list (items : List Value) : (list items).entries = .ok (numbered items) :=
  rfl

theorem entries_string (s : String) : (string s).entries = .ok (numbered (s.toList.map ofChar)) := by
  simp [Value.entries, numbered, List.zipIdx_map, Function.comp_def]

@[simp] theorem length_numbered : (numbered items).length = items.length := by
  simp [numbered]

@[simp] theorem numbered_eq_nil_iff : numbered items = [] ↔ items = [] := by
  simp [numbered]

theorem mem_numbered {key value : Value} :
    (key, value) ∈ numbered items ↔ ∃ i, items[i]? = some value ∧ key = ofNat i := by
  simp only [numbered, List.mem_map, Prod.exists, List.mk_mem_zipIdx_iff_getElem?, Prod.mk.injEq]
  constructor
  · rintro ⟨_, i, there, rfl, rfl⟩
    exact ⟨i, there, rfl⟩
  · rintro ⟨i, there, rfl⟩
    exact ⟨value, i, there, rfl, rfl⟩

theorem toInt_clamp_natCast {n : Nat} (small : n < 2 ^ 63) : (clamp n).toInt = n := by
  rw [toInt_clamp]
  omega

theorem ofNat_inj {m n : Nat} (left : m < 2 ^ 63) (right : n < 2 ^ 63) (same : ofNat m = ofNat n) : m = n := by
  have words := congrArg Int64.toInt (Value.int.inj same)
  rw [toInt_clamp_natCast left, toInt_clamp_natCast right] at words
  exact_mod_cast words

theorem numbered_apart (small : items.length < 2 ^ 63) : ((numbered items).map Prod.fst).Nodup := by
  have keys : (numbered items).map Prod.fst = (List.range items.length).map ofNat := by
    rw [List.range_eq_range', ← List.zipIdx_map_snd, numbered, List.map_map, List.map_map]
    rfl
  rw [keys]
  apply List.Nodup.map_on _ List.nodup_range
  intro m first n second same
  rw [List.mem_range] at first second
  exact ofNat_inj (by omega) (by omega) same

theorem length_call {c : Value} {count : Nat} (measured : Builtin.lengthOf c = count) (small : count < 2 ^ 63) :
    ∃ n : Int64, Builtin.length.call [c] = .ok (int n) ∧ n.toInt = count :=
  ⟨clamp count, by simp [Builtin.call, argument, measured, ofNat], toInt_clamp_natCast small⟩

theorem index_list_front {key : Value} {i : Int64} (whole : key.toInt? = some i) (front : 0 ≤ i.toInt) :
    (list items).index key = .ok (items[i.toInt.toNat]?.getD null) := by
  simp [index, whole, front, not_lt.mpr front]

theorem index_list_back {key : Value} {i : Int64} (whole : key.toInt? = some i) (back : i.toInt < 0) :
    (list items).index key =
      .ok ((if 0 ≤ items.length + i.toInt then items[(items.length + i.toInt).toNat]? else none).getD null) := by
  simp [index, whole, back]

theorem index_list_ofNat {i : Nat} (small : i < 2 ^ 63) : (list items).index (ofNat i) = .ok (items[i]?.getD null) := by
  have word := toInt_clamp_natCast small
  rw [index_list_front (i := clamp i) rfl (by omega), word, Int.toNat_natCast]

theorem index_string_ofNat {s : String} {i : Nat} (small : i < 2 ^ 63) :
    (string s).index (ofNat i) = .ok ((s.toList.map ofChar)[i]?.getD null) := by
  simp [index, ofNat, toInt?, toInt_clamp_natCast small, -Int64.toNat_toInt]

theorem numbered_agrees {c : Value} (small : items.length < 2 ^ 63) (measured : Builtin.lengthOf c = items.length)
    (indexed : ∀ i < 2 ^ 63, c.index (ofNat i) = .ok (items[i]?.getD null)) (empty : c.isEmpty = true ↔ items = [])
    (holds : c.truthy = true ↔ items ≠ []) : c.Agrees (numbered items) where
  counted := by
    rw [length_numbered]
    exact length_call measured small
  found := by
    intro key value member
    obtain ⟨i, there, rfl⟩ := mem_numbered.mp member
    have inside := (List.getElem?_eq_some_iff.mp there).1
    rw [indexed i (by omega), there]
    rfl
  apart := numbered_apart small
  empty := empty.trans numbered_eq_nil_iff.symm
  holds := holds.trans numbered_eq_nil_iff.not.symm

theorem list_agrees (small : items.length < 2 ^ 63) : (list items).Agrees (numbered items) := by
  apply numbered_agrees small rfl
  · exact fun i word => index_list_ofNat word
  · simp [isEmpty]
  · simp [truthy]

theorem string_agrees {s : String} (small : s.length < 2 ^ 63) : (string s).Agrees (numbered (s.toList.map ofChar)) := by
  apply numbered_agrees
  · simpa [String.length_toList] using small
  · simp [Builtin.lengthOf, String.length_toList]
  · exact fun i word => index_string_ofNat word
  · simp [isEmpty]
  · simp [truthy]

/-- A position of a list counts from the end if it is negative, and there is nothing outside. -/
theorem index_list_outside {key : Value} {i : Int64} (whole : key.toInt? = some i)
    (outside : i.toInt < -items.length ∨ items.length ≤ i.toInt) : (list items).index key = .ok null := by
  obtain below | above := outside
  · rw [index_list_back whole (by omega), if_neg (by omega)]
    rfl
  · rw [index_list_front whole (by omega), List.getElem?_eq_none (by omega)]
    rfl

theorem index_list_wraps {key other : Value} {i j : Int64} (whole : key.toInt? = some i) (front : other.toInt? = some j)
    (inside : -items.length ≤ i.toInt) (back : i.toInt < 0) (same : j.toInt = items.length + i.toInt) :
    (list items).index key = (list items).index other := by
  rw [index_list_back whole back, if_pos (by omega), index_list_front front (by omega), same]

end

section

variable {pairs : List (String × Value)}

theorem index_map_string (key : String) : (map pairs).index (string key) = .ok ((pairs.lookup key).getD null) := by
  simp [index, display]

theorem isIn_map_string (key : String) : isIn (string key) (map pairs) = .ok (bool (pairs.any fun pair => pair.1 == key)) := by
  simp [isIn, display]

theorem mem_keyed {key value : Value} :
    (key, value) ∈ pairs.map (fun pair => (string pair.1, pair.2)) ↔ ∃ name, (name, value) ∈ pairs ∧ key = string name := by
  simp [eq_comm]

theorem map_agrees (ascending : Ascending pairs) (small : pairs.length < 2 ^ 63) :
    (map pairs).Agrees (pairs.map fun pair => (string pair.1, pair.2)) where
  counted := by
    rw [List.length_map]
    exact length_call rfl small
  found := by
    intro key value member
    obtain ⟨name, there, rfl⟩ := mem_keyed.mp member
    rw [index_map_string, ascending.lookup_eq_some_iff.mpr there]
    rfl
  apart := by
    rw [List.map_map, List.Nodup, List.pairwise_map]
    exact ascending.imp fun below same => below.ne (Value.string.inj same)
  empty := by simp [isEmpty]
  holds := by simp [truthy]

end

/-- The entries of a container are what it is measured, indexed and tested by. A list has nothing outside its positions,
and counts negative ones from its end; a map has the keys of its entries. -/
theorem container_agrees {c : Value} (container : c.IsContainer) :
    ∃ entries, c.entries = .ok entries ∧ (entries.length < 2 ^ 63 →
      c.Agrees entries ∧
      (∀ items, c = list items → ∀ key i, key.toInt? = some i →
        (-(items.length : Int) ≤ i.toInt → i.toInt < 0 →
          ∃ j : Int64, j.toInt = items.length + i.toInt ∧ c.index key = c.index (int j)) ∧
        (i.toInt < -(items.length : Int) ∨ (items.length : Int) ≤ i.toInt → c.index key = .ok null)) ∧
      (∀ pairs, c = map pairs → ∀ key, ∃ found, isIn (string key) c = .ok (bool found) ∧
        (found = true ↔ ∃ value, (string key, value) ∈ entries))) := by
  cases container with
  | list items =>
      refine ⟨_, entries_list items, fun small => ?_⟩
      rw [length_numbered] at small
      refine ⟨list_agrees small, ?_, nofun⟩
      rintro _ ⟨⟩ key i whole
      refine ⟨fun inside back => ?_, index_list_outside whole⟩
      have word : (clamp (items.length + i.toInt)).toInt = items.length + i.toInt := by
        rw [toInt_clamp]
        omega
      exact ⟨_, word, index_list_wraps whole rfl inside back word⟩
  | string s =>
      refine ⟨_, entries_string s, fun small => ⟨string_agrees ?_, nofun, nofun⟩⟩
      simpa [String.length_toList] using small
  | @map pairs ascending =>
      refine ⟨_, rfl, fun small => ?_⟩
      rw [List.length_map] at small
      refine ⟨map_agrees ascending small, nofun, ?_⟩
      rintro _ ⟨⟩ key
      refine ⟨_, isIn_map_string key, ?_⟩
      simp

theorem threeItems_agree :
    (list [int 7, null, string "é"]).IsContainer ∧
    (list [int 7, null, string "é"]).Agrees [(int 0, int 7), (int 1, null), (int 2, string "é")] ∧
    (list [int 7, null, string "é"]).index (int (-3)) = (list [int 7, null, string "é"]).index (int 0) ∧
    (list [int 7, null, string "é"]).index (int Int64.minValue) = .ok null := by
  obtain ⟨entries, ⟨⟩, agrees⟩ := container_agrees (.list [int 7, null, string "é"])
  obtain ⟨same, positions, -⟩ := agrees (by decide)
  obtain ⟨j, word, wrapped⟩ := (positions _ rfl (int (-3)) (-3) rfl).1 (by decide) (by decide)
  obtain rfl : j = 0 := Int64.toInt_inj.mp word
  exact ⟨.list _, same, wrapped, (positions _ rfl (int Int64.minValue) _ rfl).2 (by decide)⟩

end Value

end Templating
