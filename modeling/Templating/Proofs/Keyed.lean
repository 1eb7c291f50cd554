import Mathlib.Data.String.Basic
import Templating.Value.Basic

/-! # Pairs under ascending keys

Scopes, maps and registries keep their entries as pairs in ascending order of the keys. Placing a pair
changes the value of its own key and of no other, in any list; in ascending lists the entries are
determined by the values they give, so equal contents are equal lists. Sorting makes a list ascend, leaves
one that ascends as it is, and does not look at the values.
-/

namespace Templating

variable {α : Type}

/-- The keys ascend strictly, so no key stands twice. -/
def Ascending (entries : List (String × α)) : Prop :=
  entries.Pairwise fun earlier later => earlier.1 < later.1

theorem lookup_entry (name key : String) (value : α) (later : List (String × α)) :
    ((key, value) :: later).lookup name = if name = key then some value else later.lookup name := by
  by_cases same : name = key
  · simp [same]
  · simp [List.lookup_cons, beq_eq_false_iff_ne.mpr same, same]

theorem lookup_insertByKey (key name : String) (value : α) (entries : List (String × α)) :
    (insertByKey key value entries).lookup name = if name = key then some value else entries.lookup name := by
  induction entries with
  | nil => rw [insertByKey, lookup_entry]
  | cons entry later ih =>
      obtain ⟨other, previous⟩ := entry
      simp only [insertByKey]
      split
      · rename_i here
        subst here
        simp only [lookup_entry]
        split <;> rfl
      · rename_i elsewhere
        split
        · rw [lookup_entry]
        · rw [lookup_entry, lookup_entry, ih]
          by_cases found : name = other
          · rw [if_pos found, if_pos found, if_neg (fun same => elsewhere (same.symm.trans found))]
          · rw [if_neg found, if_neg found]

theorem insertByKey_comm {key other : String} (apart : key ≠ other) (value value' : α) (entries : List (String × α)) :
    insertByKey key value (insertByKey other value' entries) = insertByKey other value' (insertByKey key value entries) := by
  induction entries with
  | nil =>
      rcases lt_or_gt_of_ne apart with less | greater
      · simp only [insertByKey, if_neg apart, if_neg apart.symm, if_pos less, if_neg less.not_gt]
      · simp only [insertByKey, if_neg apart, if_neg apart.symm, if_pos greater, if_neg greater.not_gt]
  | cons entry later ih =>
      simp only [insertByKey]
      grind [insertByKey]

theorem lookup_filter_ne (key name : String) (entries : List (String × α)) :
    (entries.filter fun entry => entry.1 != key).lookup name =
      if name = key then none else entries.lookup name := by
  induction entries with
  | nil => simp
  | cons entry later ih =>
      obtain ⟨other, value⟩ := entry
      by_cases here : other = key
      · subst here
        simp only [List.filter_cons, bne_self_eq_false, Bool.false_eq_true, if_false, ih, lookup_entry]
        split <;> rfl
      · simp only [List.filter_cons, bne_iff_ne.mpr here, if_true, lookup_entry, ih]
        by_cases found : name = other
        · rw [if_pos found, if_pos found, if_neg (fun same => here (found.symm.trans same))]
        · rw [if_neg found, if_neg found]

theorem mem_insertByKey {key : String} {value : α} {entry : String × α} {entries : List (String × α)}
    (member : entry ∈ insertByKey key value entries) : entry = (key, value) ∨ entry ∈ entries := by
  induction entries with
  | nil => simpa [insertByKey] using member
  | cons head later ih =>
      simp only [insertByKey] at member
      split at member
      · rcases List.mem_cons.mp member with placed | old
        · exact .inl placed
        · exact .inr (List.mem_cons_of_mem _ old)
      · split at member
        · rcases List.mem_cons.mp member with placed | old
          · exact .inl placed
          · exact .inr old
        · rcases List.mem_cons.mp member with first | deeper
          · exact .inr (first ▸ List.mem_cons_self)
          · exact (ih deeper).imp_right (List.mem_cons_of_mem _)

namespace Ascending

theorem insertByKey {entries : List (String × α)} (ascending : Ascending entries) (key : String)
    (value : α) : Ascending (insertByKey key value entries) := by
  induction entries with
  | nil => exact List.pairwise_singleton _ _
  | cons head later ih =>
      obtain ⟨below, rest⟩ := List.pairwise_cons.mp ascending
      simp only [Templating.insertByKey]
      split
      · rename_i same
        exact List.pairwise_cons.mpr ⟨fun entry member => same ▸ below entry member, rest⟩
      · split
        · rename_i before
          refine List.pairwise_cons.mpr ⟨fun entry member => ?_, ascending⟩
          rcases List.mem_cons.mp member with first | deeper
          · exact first ▸ before
          · exact lt_trans before (below entry deeper)
        · rename_i different notBefore
          have above : head.1 < key := lt_of_le_of_ne (not_lt.mp notBefore) (Ne.symm different)
          refine List.pairwise_cons.mpr ⟨fun entry member => ?_, ih rest⟩
          rcases mem_insertByKey member with placed | old
          · exact placed ▸ above
          · exact below entry old

theorem filter {entries : List (String × α)} (ascending : Ascending entries) (keep : String × α → Bool) :
    Ascending (entries.filter keep) :=
  List.Pairwise.filter keep ascending

theorem lookup_head {key : String} {value : α} {later : List (String × α)}
    (ascending : Ascending ((key, value) :: later)) : later.lookup key = none := by
  refine List.lookup_eq_none_iff.mpr fun entry member => ?_
  exact bne_iff_ne.mpr (ne_of_lt ((List.pairwise_cons.mp ascending).1 entry member))

theorem lookup_below {key name : String} {value : α} {later : List (String × α)}
    (ascending : Ascending ((key, value) :: later)) (below : name < key) :
    ((key, value) :: later).lookup name = none := by
  refine List.lookup_eq_none_iff.mpr fun entry member => bne_iff_ne.mpr ?_
  rcases List.mem_cons.mp member with first | deeper
  · exact first ▸ ne_of_lt below
  · exact ne_of_lt (lt_trans below ((List.pairwise_cons.mp ascending).1 entry deeper))

theorem lookup_eq_some_iff {key : String} {value : α} {entries : List (String × α)} (ascending : Ascending entries) :
    entries.lookup key = some value ↔ (key, value) ∈ entries := by
  induction entries with
  | nil => simp
  | cons entry later ih =>
      obtain ⟨below, rest⟩ := List.pairwise_cons.mp ascending
      rw [lookup_entry, List.mem_cons]
      by_cases here : key = entry.1
      · have once : (entry.1, value) ∉ later := fun member => (below _ member).ne rfl
        simp [here, once, Prod.ext_iff, eq_comm]
      · simp [here, ih rest, Prod.ext_iff]

/-- Ascending lists that give every key the same value are the same list. -/
theorem eq_of_lookup {left right : List (String × α)} (leftAscending : Ascending left)
    (rightAscending : Ascending right) (same : ∀ name, left.lookup name = right.lookup name) :
    left = right := by
  induction left generalizing right with
  | nil =>
      cases right with
      | nil => rfl
      | cons entry later =>
          obtain ⟨key, value⟩ := entry
          simpa using same key
  | cons head tail ih =>
      obtain ⟨key, value⟩ := head
      cases right with
      | nil => simpa using same key
      | cons other rest =>
          obtain ⟨otherKey, otherValue⟩ := other
          have keys : key = otherKey := by
            rcases lt_trichotomy key otherKey with below | equal | above
            · simpa [rightAscending.lookup_below below] using same key
            · exact equal
            · simpa [leftAscending.lookup_below above] using same otherKey
          subst keys
          have values : value = otherValue := by simpa using same key
          subst values
          have tails : tail = rest := by
            refine ih (List.pairwise_cons.mp leftAscending).2 (List.pairwise_cons.mp rightAscending).2
              fun name => ?_
            by_cases first : name = key
            · rw [first, leftAscending.lookup_head, rightAscending.lookup_head]
            · simpa only [lookup_entry, if_neg first] using same name
          rw [tails]

end Ascending

theorem ascending_sortByKey (pairs : List (String × α)) : Ascending (sortByKey pairs) := by
  unfold sortByKey
  suffices general : ∀ sorted : List (String × α), Ascending sorted →
      Ascending (pairs.foldl (fun sorted pair => insertByKey pair.1 pair.2 sorted) sorted) from
    general [] List.Pairwise.nil
  induction pairs with
  | nil => exact fun _ ascending => ascending
  | cons pair pairs ih => exact fun sorted ascending => ih _ (ascending.insertByKey pair.1 pair.2)

theorem mem_sortByKey {entry : String × α} {pairs : List (String × α)} (member : entry ∈ sortByKey pairs) :
    entry ∈ pairs := by
  unfold sortByKey at member
  suffices general : ∀ sorted : List (String × α),
      entry ∈ pairs.foldl (fun sorted pair => insertByKey pair.1 pair.2 sorted) sorted → entry ∈ pairs ∨ entry ∈ sorted from
    (general [] member).resolve_right List.not_mem_nil
  clear member
  induction pairs with
  | nil => exact fun _ old => .inr old
  | cons pair pairs ih =>
      intro sorted member
      obtain later | placed := ih _ member
      · exact .inl (List.mem_cons_of_mem _ later)
      · obtain rfl | old := mem_insertByKey placed
        · exact .inl List.mem_cons_self
        · exact .inr old

theorem insertByKey_append {key : String} {entries : List (String × α)} (below : ∀ entry ∈ entries, entry.1 < key)
    (value : α) : insertByKey key value entries = entries ++ [(key, value)] := by
  induction entries with
  | nil => rfl
  | cons entry entries ih =>
      obtain ⟨first, others⟩ := List.forall_mem_cons.mp below
      rw [insertByKey, if_neg first.ne', if_neg first.not_gt, ih others]
      rfl

theorem sortByKey_of_ascending {entries : List (String × α)} (ascending : Ascending entries) :
    sortByKey entries = entries := by
  suffices general : ∀ front : List (String × α), Ascending (front ++ entries) →
      entries.foldl (fun sorted pair => insertByKey pair.1 pair.2 sorted) front = front ++ entries from
    general [] ascending
  clear ascending
  induction entries with
  | nil => exact fun front _ => (List.append_nil front).symm
  | cons entry entries ih =>
      intro front ordered
      have below : ∀ earlier ∈ front, earlier.1 < entry.1 := fun earlier member =>
        (List.pairwise_append.mp ordered).2.2 earlier member entry List.mem_cons_self
      rw [List.foldl_cons, insertByKey_append below, ih _ (by rwa [List.append_assoc]), List.append_assoc]
      rfl

section

variable {β : Type} (f : α → β)

theorem insertByKey_map (key : String) (value : α) (entries : List (String × α)) :
    insertByKey key (f value) (entries.map (Prod.map id f)) = (insertByKey key value entries).map (Prod.map id f) := by
  induction entries with
  | nil => rfl
  | cons entry entries ih =>
      rw [List.map_cons, insertByKey, insertByKey, ih, Prod.map_fst, id_eq]
      split_ifs <;> rfl

/-- Sorting pairs by their keys does not look at what stands under the keys. -/
theorem sortByKey_map (pairs : List (String × α)) :
    sortByKey (pairs.map (Prod.map id f)) = (sortByKey pairs).map (Prod.map id f) := by
  unfold sortByKey
  suffices general : ∀ sorted : List (String × α),
      (pairs.map (Prod.map id f)).foldl (fun sorted pair => insertByKey pair.1 pair.2 sorted) (sorted.map (Prod.map id f)) =
        (pairs.foldl (fun sorted pair => insertByKey pair.1 pair.2 sorted) sorted).map (Prod.map id f) from
    general []
  induction pairs with
  | nil => exact fun _ => rfl
  | cons pair pairs ih =>
      intro sorted
      rw [List.map_cons, List.foldl_cons, List.foldl_cons, ← ih]
      exact congrArg (List.foldl _ · _) (insertByKey_map f pair.1 pair.2 sorted)

end

end Templating
