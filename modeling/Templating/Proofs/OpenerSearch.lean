import Mathlib.Data.List.Infix
import Templating.Source.Tokenizer

/-! # Searching for openers

A search finds the first place of a piece. A finder that remembers its last answer answers like a fresh
search as long as reading moves forward, so the opener that is chosen is the first one from where reading
stands, and the longest of those at that place.
-/

namespace Templating.Source

section

variable {piece text rest : List Char} {place : Nat}

/-- A piece stands at a place of a text. -/
def StandsAt (piece text : List Char) (place : Nat) : Prop :=
  piece <+: text.drop place

instance : Decidable (StandsAt piece text place) :=
  inferInstanceAs (Decidable (piece <+: text.drop place))

theorem standsAt_drop {count : Nat} : StandsAt piece (text.drop count) place ↔ StandsAt piece text (count + place) := by
  rw [StandsAt, StandsAt, List.drop_drop]

theorem standsAt_behind (front : List Char) : StandsAt piece (front ++ text) front.length ↔ piece <+: text := by
  rw [StandsAt, List.drop_left]

theorem StandsAt.leaves_room (stands : StandsAt piece text place) (some_char : piece ≠ []) :
    place + piece.length ≤ text.length := by
  have fits := List.IsPrefix.length_le stands
  rw [List.length_drop] at fits
  have := List.length_pos_iff.mpr some_char
  omega

theorem standsAt_append_right (room : place + piece.length ≤ text.length) :
    StandsAt piece (text ++ rest) place ↔ StandsAt piece text place := by
  rw [StandsAt, StandsAt, List.drop_append_of_le_length (by omega)]
  refine ⟨fun stands => ?_, fun stands => stands.trans (List.prefix_append _ _)⟩
  refine List.prefix_of_prefix_length_le stands (List.prefix_append _ _) ?_
  rw [List.length_drop]
  omega

theorem offsetOf?_spec (piece text : List Char) :
    (∀ place, offsetOf? piece text = some place →
      StandsAt piece text place ∧ ∀ earlier < place, ¬ StandsAt piece text earlier) ∧
    (offsetOf? piece text = none → ∀ place, ¬ StandsAt piece text place) := by
  induction text with
  | nil =>
      rw [offsetOf?]
      split
      · rename_i empty
        rw [List.isEmpty_iff] at empty
        subst empty
        simp [StandsAt]
      · rename_i inhabited
        simp_all [StandsAt]
  | cons c text ih =>
      obtain ⟨sound, complete⟩ := ih
      rw [offsetOf?]
      split
      · rename_i here
        refine ⟨?_, nofun⟩
        rintro place ⟨⟩
        exact ⟨List.isPrefixOf_iff_prefix.mp here, nofun⟩
      · rename_i elsewhere
        have notHere : ¬ StandsAt piece (c :: text) 0 := fun stands => elsewhere (List.isPrefixOf_iff_prefix.mpr stands)
        constructor
        · intro place found
          obtain ⟨inner, there, rfl⟩ := Option.map_eq_some_iff.mp found
          obtain ⟨stands, first⟩ := sound inner there
          refine ⟨stands, fun earlier before => ?_⟩
          cases earlier with
          | zero => exact notHere
          | succ earlier => exact first earlier (by omega)
        · intro nowhere place
          cases place with
          | zero => exact notHere
          | succ place => exact complete (Option.map_eq_none_iff.mp nowhere) place

theorem offsetOf?_eq_some_iff :
    offsetOf? piece text = some place ↔ StandsAt piece text place ∧ ∀ earlier < place, ¬ StandsAt piece text earlier := by
  obtain ⟨sound, complete⟩ := offsetOf?_spec piece text
  refine ⟨sound place, fun ⟨stands, first⟩ => ?_⟩
  cases found : offsetOf? piece text with
  | none => exact absurd stands (complete found place)
  | some other =>
      obtain ⟨also, before⟩ := sound other found
      rcases Nat.lt_trichotomy other place with earlier | rfl | later
      · exact absurd also (first other earlier)
      · rfl
      · exact absurd stands (before place later)

theorem offsetOf?_eq_none_iff : offsetOf? piece text = none ↔ ∀ place, ¬ StandsAt piece text place := by
  obtain ⟨sound, complete⟩ := offsetOf?_spec piece text
  refine ⟨complete, fun nowhere => ?_⟩
  cases found : offsetOf? piece text with
  | none => rfl
  | some place => exact absurd (sound place found).1 (nowhere place)

end

namespace Finder

variable {f : Finder} {position : Nat} {unread : List Char}

/-- What a finder remembers still holds from the position on. -/
def Current (f : Finder) (position : Nat) (unread : List Char) : Prop :=
  ∀ answer ∈ f.known, match answer with
    | none => f.search position unread = none
    | some place => position ≤ place → f.search position unread = some place

theorem search_eq_none_iff :
    f.search position unread = none ↔ ∀ place, ¬ StandsAt f.opener.opening.toList unread place := by
  rw [search, Option.map_eq_none_iff, offsetOf?_eq_none_iff]

theorem search_eq_some_iff {place : Nat} :
    f.search position unread = some (position + place) ↔ StandsAt f.opener.opening.toList unread place ∧
      ∀ earlier < place, ¬ StandsAt f.opener.opening.toList unread earlier := by
  rw [search, ← offsetOf?_eq_some_iff, Option.map_eq_some_iff]
  constructor
  · rintro ⟨offset, found, same⟩
    rw [found, Nat.add_left_cancel same]
  · exact fun found => ⟨place, found, rfl⟩

theorem exists_of_search {place : Nat} (found : f.search position unread = some place) :
    ∃ offset, place = position + offset := by
  obtain ⟨offset, -, rfl⟩ := Option.map_eq_some_iff.mp found
  exact ⟨offset, rfl⟩

/-- A finder that remembers answers like a search from where reading stands. -/
theorem Current.next_eq (current : f.Current position unread) : f.next position unread = f.search position unread := by
  rw [next]
  cases known : f.known with
  | none => rfl
  | some answer =>
      have holds := current answer known
      cases answer with
      | none => exact holds.symm
      | some place =>
          dsimp only
          split
          · rename_i ahead
            exact (holds ahead).symm
          · rfl

theorem Current.remember (current : f.Current position unread) (count : Nat) :
    (f.remember position unread).Current (position + count) (unread.drop count) := by
  rintro answer ⟨⟩
  rw [current.next_eq]
  cases found : f.search position unread with
  | none =>
      refine search_eq_none_iff.mpr fun place stands => ?_
      exact search_eq_none_iff.mp found (count + place) (standsAt_drop.mp stands)
  | some place =>
      intro ahead
      obtain ⟨offset, rfl⟩ := exists_of_search found
      obtain ⟨stands, first⟩ := search_eq_some_iff.mp found
      obtain ⟨further, rfl⟩ : ∃ further, offset = count + further := ⟨offset - count, by omega⟩
      rw [← Nat.add_assoc]
      refine search_eq_some_iff.mpr ⟨standsAt_drop.mpr stands, fun earlier before again => ?_⟩
      exact first (count + earlier) (by omega) (standsAt_drop.mp again)

end Finder

section

variable {finders : List Finder} {position : Nat} {unread : List Char}

/-- An opener at a place is preferred to another: it stands earlier, or there and is not shorter. -/
def Preferred (first second : Nat × Opener) : Prop :=
  first.1 < second.1 ∨ first.1 = second.1 ∧ second.2.opening.utf8ByteSize ≤ first.2.opening.utf8ByteSize

theorem Preferred.trans {first second third : Nat × Opener} (one : Preferred first second)
    (two : Preferred second third) : Preferred first third := by
  simp only [Preferred] at *
  omega

theorem preferred_of_isBetter {place : Nat} {opener : Opener} {best : Nat × Opener} :
    (isBetter place opener (some best) = true → Preferred (place, opener) best) ∧
      (isBetter place opener (some best) = false → Preferred best (place, opener)) := by
  simp only [isBetter, Preferred, Bool.or_eq_true, Bool.and_eq_true, Bool.or_eq_false_iff, Bool.and_eq_false_iff,
    decide_eq_true_eq, decide_eq_false_iff_not, beq_iff_eq, beq_eq_false_iff_ne]
  omega

/-- Choosing goes on from the best opener so far and ends with one to which none is preferred. -/
theorem foldl_chosen (best : Option (Nat × Opener)) :
    (∀ chosen, finders.foldl
        (fun best f =>
          match f.next position unread with
          | none => best
          | some place => if isBetter place f.opener best then some (place, f.opener) else best) best = some chosen →
      (best = some chosen ∨ ∃ f ∈ finders, f.next position unread = some chosen.1 ∧ f.opener = chosen.2) ∧
      (∀ other ∈ best, Preferred chosen other) ∧
      ∀ f ∈ finders, ∀ place, f.next position unread = some place → Preferred chosen (place, f.opener)) ∧
    (finders.foldl
        (fun best f =>
          match f.next position unread with
          | none => best
          | some place => if isBetter place f.opener best then some (place, f.opener) else best) best = none →
      best = none ∧ ∀ f ∈ finders, f.next position unread = none) := by
  induction finders generalizing best with
  | nil =>
      refine ⟨?_, fun nothing => ⟨nothing, nofun⟩⟩
      rintro chosen rfl
      refine ⟨.inl rfl, ?_, nofun⟩
      rintro other ⟨⟩
      exact .inr ⟨rfl, Nat.le_refl _⟩
  | cons f finders ih =>
      simp only [List.foldl_cons, List.forall_mem_cons]
      cases found : f.next position unread with
      | none =>
          obtain ⟨sound, complete⟩ := ih best
          constructor
          · intro chosen result
            obtain ⟨origin, others, rest⟩ := sound chosen result
            refine ⟨origin.imp_right fun ⟨g, member, same⟩ => ⟨g, List.mem_cons_of_mem _ member, same⟩, others, ?_, rest⟩
            nofun
          · intro nothing
            exact ⟨(complete nothing).1, rfl, (complete nothing).2⟩
      | some place =>
          dsimp only
          cases better : isBetter place f.opener best with
          | true =>
              obtain ⟨sound, complete⟩ := ih (some (place, f.opener))
              rw [if_pos rfl]
              refine ⟨fun chosen result => ?_, fun nothing => nomatch (complete nothing).1⟩
              obtain ⟨origin, others, rest⟩ := sound chosen result
              have preferred := others _ rfl
              refine ⟨.inr ?_, ?_, ?_, rest⟩
              · rcases origin with ⟨⟨⟩⟩ | ⟨g, member, same⟩
                · exact ⟨f, List.mem_cons_self, found, rfl⟩
                · exact ⟨g, List.mem_cons_of_mem _ member, same⟩
              · rintro other ⟨⟩
                exact preferred.trans (preferred_of_isBetter.1 better)
              · rintro _ ⟨⟩
                exact preferred
          | false =>
              obtain ⟨sound, complete⟩ := ih best
              rw [if_neg Bool.false_ne_true]
              cases best with
              | none => cases better
              | some best =>
                  refine ⟨fun chosen result => ?_, fun nothing => nomatch (complete nothing).1⟩
                  obtain ⟨origin, others, rest⟩ := sound chosen result
                  refine ⟨origin.imp_right fun ⟨g, member, same⟩ => ⟨g, List.mem_cons_of_mem _ member, same⟩, others, ?_, rest⟩
                  rintro _ ⟨⟩
                  exact (others best rfl).trans (preferred_of_isBetter.2 better)

/-- An opener stands at the first place of a text where any does, and no longer one stands there. -/
structure Opens (openers : List Opener) (text : List Char) (place : Nat) (opener : Opener) : Prop where
  member : opener ∈ openers
  stands : StandsAt opener.opening.toList text place
  first : ∀ other ∈ openers, ∀ earlier < place, ¬ StandsAt other.opening.toList text earlier
  longest : ∀ other ∈ openers, StandsAt other.opening.toList text place → other.opening.length ≤ opener.opening.length

/-- Of two pieces at one place, the one with more bytes is the longer. -/
theorem length_le_of_utf8ByteSize_le {first second : String} {text : List Char} (one : first.toList <+: text)
    (two : second.toList <+: text) (bytes : first.utf8ByteSize ≤ second.utf8ByteSize) : first.length ≤ second.length := by
  rcases List.prefix_or_prefix_of_prefix one two with shorter | longer
  · rw [← String.length_toList, ← String.length_toList]
    exact shorter.length_le
  · obtain ⟨rest, same⟩ := longer
    have split : first = second ++ String.ofList rest := by
      rw [← String.toList_inj, String.toList_append, String.toList_ofList, same]
    have nothing : String.ofList rest = "" := by
      rw [← String.utf8ByteSize_eq_zero_iff]
      rw [split, String.utf8ByteSize_append] at bytes
      omega
    rw [split, nothing, String.append_empty]

/-- The finders of all openers, none of which remembers what does not hold. -/
structure Tracks (d : Delimiters) (finders : List Finder) (position : Nat) (unread : List Char) : Prop where
  all : finders.map Finder.opener = openers d
  current : ∀ f ∈ finders, f.Current position unread

variable {d : Delimiters}

theorem tracks_start (d : Delimiters) (text : List Char) :
    Tracks d ((openers d).map fun opener => { opener := opener }) 0 text := by
  refine ⟨?_, fun f member => ?_⟩
  · rw [List.map_map]
    exact List.map_id _
  · obtain ⟨opener, -, rfl⟩ := List.mem_map.mp member
    nofun

theorem Tracks.advance (tracks : Tracks d finders position unread) (count : Nat) :
    Tracks d (finders.map (·.remember position unread)) (position + count) (unread.drop count) := by
  refine ⟨?_, fun f member => ?_⟩
  · rw [List.map_map, ← tracks.all]
    rfl
  · obtain ⟨earlier, known, rfl⟩ := List.mem_map.mp member
    exact (tracks.current earlier known).remember count

theorem Tracks.exists_finder (tracks : Tracks d finders position unread) {opener : Opener} (member : opener ∈ openers d) :
    ∃ f ∈ finders, f.opener = opener := by
  rw [← tracks.all] at member
  exact List.mem_map.mp member

theorem Tracks.of_chooseOpener_eq_none (tracks : Tracks d finders position unread)
    (nothing : chooseOpener finders position unread = none) :
    ∀ opener ∈ openers d, ∀ place, ¬ StandsAt opener.opening.toList unread place := by
  intro opener member
  obtain ⟨f, known, rfl⟩ := tracks.exists_finder member
  have nowhere := ((foldl_chosen none).2 nothing).2 f known
  rw [(tracks.current f known).next_eq] at nowhere
  exact Finder.search_eq_none_iff.mp nowhere

theorem Tracks.of_chooseOpener_eq_some (tracks : Tracks d finders position unread) {place : Nat} {opener : Opener}
    (chosen : chooseOpener finders position unread = some (place, opener)) :
    ∃ offset, place = position + offset ∧ Opens (openers d) unread offset opener := by
  obtain ⟨origin, -, preferred⟩ := (foldl_chosen none).1 _ chosen
  obtain ⟨⟨⟩⟩ | ⟨f, known, found, rfl⟩ := origin
  rw [(tracks.current f known).next_eq] at found
  obtain ⟨offset, rfl⟩ := Finder.exists_of_search found
  obtain ⟨stands, -⟩ := Finder.search_eq_some_iff.mp found
  -- No opener stands before the chosen one, since its finder would have found it there.
  have others : ∀ other ∈ openers d, ∀ at_, StandsAt other.opening.toList unread at_ →
      ∃ least ≤ at_, StandsAt other.opening.toList unread least ∧ Preferred (position + offset, f.opener) (position + least, other) := by
    intro other member at_ there
    obtain ⟨g, among, rfl⟩ := tracks.exists_finder member
    cases searched : g.search position unread with
    | none => exact absurd there (Finder.search_eq_none_iff.mp searched at_)
    | some found =>
        obtain ⟨least, rfl⟩ := Finder.exists_of_search searched
        obtain ⟨here, before⟩ := Finder.search_eq_some_iff.mp searched
        refine ⟨least, Nat.le_of_not_lt fun later => before at_ later there, here, preferred g among _ ?_⟩
        rw [(tracks.current g among).next_eq, searched]
  refine ⟨offset, rfl, ⟨by rw [← tracks.all]; exact List.mem_map_of_mem known, stands, ?_, ?_⟩⟩
  · intro other member earlier before there
    obtain ⟨least, bound, -, preferred⟩ := others other member earlier there
    simp only [Preferred] at preferred
    omega
  · intro other member there
    obtain ⟨least, bound, here, preferred⟩ := others other member offset there
    simp only [Preferred] at preferred
    exact length_le_of_utf8ByteSize_le there stands (by omega)

theorem Tracks.chooseOpener_eq_none (tracks : Tracks d finders position unread)
    (nowhere : ∀ opener ∈ openers d, ∀ place, ¬ StandsAt opener.opening.toList unread place) :
    chooseOpener finders position unread = none := by
  cases chosen : chooseOpener finders position unread with
  | none => rfl
  | some result =>
      obtain ⟨place, opener⟩ := result
      obtain ⟨offset, -, opens⟩ := tracks.of_chooseOpener_eq_some chosen
      exact absurd opens.stands (nowhere _ opens.member offset)

theorem Tracks.chooseOpener_eq_some (tracks : Tracks d finders position unread) {offset : Nat} {opener : Opener}
    (opens : Opens (openers d) unread offset opener)
    (only : ∀ other ∈ openers d, StandsAt other.opening.toList unread offset → other = opener) :
    chooseOpener finders position unread = some (position + offset, opener) := by
  cases chosen : chooseOpener finders position unread with
  | none => exact absurd opens.stands (tracks.of_chooseOpener_eq_none chosen _ opens.member offset)
  | some result =>
      obtain ⟨place, other⟩ := result
      obtain ⟨found, rfl, others⟩ := tracks.of_chooseOpener_eq_some chosen
      obtain rfl : found = offset := by
        rcases Nat.lt_trichotomy found offset with earlier | same | later
        · exact absurd others.stands (opens.first _ others.member found earlier)
        · exact same
        · exact absurd opens.stands (others.first _ opens.member offset later)
      rw [only other others.member others.stands]

end

end Templating.Source
