import Templating.Proofs.TokenizerTurns

/-! # Searching for openers afresh

A tokenizer that remembers where each opener stands next need not search for an opener again before it has passed that place.
What it remembers may lie in a region that it then skips, or be of no use because another opener comes first. But reading only
moves forward, so that wherever the loop over the regions comes, each finder answers with the first place of its opener from
there on, and the loop gives what it gives when every turn searches for all openers.
-/

namespace Templating.Source

open Turn (Reaches Yields yields_map_iff)

/-- An answer is the first place of a piece at or behind a position of a text, or that there is none. -/
def FirstFrom (piece text : List Char) (position : Nat) : Option Nat → Prop
  | none => ∀ place, position ≤ place → ¬ StandsAt piece text place
  | some place =>
    (position ≤ place ∧ StandsAt piece text place) ∧
      ∀ earlier, position ≤ earlier → earlier < place → ¬ StandsAt piece text earlier

theorem Finder.firstFrom_search (f : Finder) (text : List Char) (position : Nat) :
    FirstFrom f.opener.opening.toList text position (f.search position (text.drop position)) := by
  cases found : f.search position (text.drop position) with
  | none =>
      intro place behind stands
      obtain ⟨offset, rfl⟩ := Nat.exists_eq_add_of_le behind
      exact search_eq_none_iff.mp found offset (standsAt_drop.mpr stands)
  | some place =>
      obtain ⟨offset, rfl⟩ := exists_of_search found
      obtain ⟨stands, first⟩ := search_eq_some_iff.mp found
      refine ⟨⟨Nat.le_add_right _ _, standsAt_drop.mp stands⟩, fun earlier behind before again => ?_⟩
      obtain ⟨sooner, rfl⟩ := Nat.exists_eq_add_of_le behind
      exact first sooner (by omega) (standsAt_drop.mpr again)

/-- The opener that starts the next region, with how far ahead it stands. Every opener is searched for. -/
def firstOpener (openers : List Opener) (unread : List Char) : Option (Nat × Opener) :=
  openers.foldl
    (fun best opener =>
      match offsetOf? opener.opening.toList unread with
      | none => best
      | some offset => if isBetter offset opener best then some (offset, opener) else best)
    none

/-- Where a loop over the regions of a source stands that remembers nothing. -/
structure AfreshState where
  tokens : List Token := []
  line : Nat := 1
  trims : Bool := false
  unread : List Char

/-- A turn of a loop over the regions of a source that searches for every opener. -/
def afreshTurn (v : Vocabulary) (s : AfreshState) : Turn AfreshState (Except LexError (List Token)) :=
  if s.unread.isEmpty then .ended (.ok (s.tokens ++ [.eof s.line]))
  else
    match firstOpener (openers v.delimiters) s.unread with
    | none =>
      .ended (.ok (s.tokens ++ (textTokens wordBehind s.line s.trims false s.unread ++
        [.eof (wordBehind s.line (countLines s.unread))])))
    | some (offset, opener) =>
      match readOpened v s.line s.trims s.unread offset opener with
      | .error e => .ended (.error e)
      | .ok done => .again ⟨s.tokens ++ done.tokens, done.line, done.trims, done.rest⟩

/-- The state of a loop over the regions of a source, without what it remembers. -/
def ScanState.forget (s : ScanState) : AfreshState where
  tokens := s.tokens
  line := s.line
  trims := s.trims
  unread := s.unread

section

variable {v : Vocabulary} {source : List Char} {s : ScanState} {finders : List Finder} {position : Nat}
  {unread : List Char}

/-- A place and its opener, counted from a position on. -/
def ahead (position : Nat) (found : Nat × Opener) : Nat × Opener :=
  (position + found.1, found.2)

theorem isBetter_ahead (position offset : Nat) (opener : Opener) (best : Option (Nat × Opener)) :
    isBetter (position + offset) opener (best.map (ahead position)) = isBetter offset opener best := by
  cases best with
  | none => rfl
  | some best =>
      have same : (position + offset == position + best.1) = (offset == best.1) := beq_eq_beq.mpr Nat.add_left_cancel_iff
      simp [isBetter, ahead, same]

/-- Going on from the best opener so far, finders that remember nothing wrong come to what a search for all comes to. -/
theorem foldl_ahead (current : ∀ f ∈ finders, f.Current position unread) (best : Option (Nat × Opener)) :
    finders.foldl
        (fun best f =>
          match f.next position unread with
          | none => best
          | some place => if isBetter place f.opener best then some (place, f.opener) else best)
        (best.map (ahead position)) =
      ((finders.map Finder.opener).foldl
        (fun best opener =>
          match offsetOf? opener.opening.toList unread with
          | none => best
          | some offset => if isBetter offset opener best then some (offset, opener) else best)
        best).map (ahead position) := by
  induction finders generalizing best with
  | nil => rfl
  | cons f finders ih =>
      obtain ⟨first, others⟩ := List.forall_mem_cons.mp current
      rw [List.map_cons, List.foldl_cons, List.foldl_cons, ← ih others]
      congr 1
      rw [first.next_eq, Finder.search]
      cases offsetOf? f.opener.opening.toList unread with
      | none => rfl
      | some offset =>
          simp only [Option.map_some, isBetter_ahead]
          split <;> rfl

/-- Finders that remember nothing wrong choose the opener that a search for all of them finds first. -/
theorem Tracks.chooseOpener_eq {d : Delimiters} (tracks : Tracks d finders position unread) :
    chooseOpener finders position unread = (firstOpener (openers d) unread).map (ahead position) := by
  rw [← tracks.all]
  exact foldl_ahead tracks.current none

theorem afreshTurn_forget (underway : Underway v source s) : afreshTurn v s.forget = (scanTurn v s).map ScanState.forget := by
  have left : s.forget.unread = s.unread := rfl
  unfold afreshTurn scanTurn
  rw [underway.tracks.chooseOpener_eq, left]
  split
  · rfl
  · cases firstOpener (openers v.delimiters) s.unread with
    | none => rfl
    | some found =>
        dsimp only [Option.map_some, ahead, ScanState.forget]
        rw [Nat.add_sub_cancel_left]
        cases readOpened v s.line s.trims s.unread found.1 found.2 <;> rfl

end

/-- Wherever the loop over the regions of a source comes, there is a finder for each opener, and each answers with the first
place of its opener from there on. With usable delimiters, tokenizing gives what a loop gives that searches for every opener in
every turn. -/
theorem tokenize_searches_afresh (v : Vocabulary) (source : String) :
    (∀ s, Reaches (scanTurn v) (.start v source.toList) s →
      s.finders.map Finder.opener = openers v.delimiters ∧
        ∀ f ∈ s.finders, FirstFrom f.opener.opening.toList source.toList s.position (f.next s.position s.unread)) ∧
    (v.delimiters.fault? = none →
      ∀ last, Yields (afreshTurn v) { unread := source.toList } last ↔ last = tokenize v source) := by
  constructor
  · intro s reached
    have underway := underway_of_reaches reached
    refine ⟨underway.tracks.all, fun f member => ?_⟩
    rw [(underway.tracks.current f member).next_eq, underway.unread]
    exact f.firstFrom_search source.toList s.position
  · intro usable last
    have start := underway_start v source.toList
    have same : Yields (afreshTurn v) (ScanState.start v source.toList).forget last ↔
        Yields (scanTurn v) (.start v source.toList) last :=
      yields_map_iff ScanState.forget (Underway v source.toList) (fun _ => afreshTurn_forget)
        (fun _ _ underway again => underway.step again) start
    rw [← result_start, ← scan_yields usable start]
    exact same

/-- A source with the opener of a tag in quotes. -/
def quotingSource : String := "\x7b\x7b '\x7b%' \x7d\x7dx\x7b% y %\x7d"

/-- Where the loop over the regions of `quotingSource` stands behind the expression: the tag that was found before lies in it,
and no comment was found. -/
def behindQuotes : ScanState where
  tokens := [⟨.expressionStart, "", 1⟩, ⟨.string, "\x7b%", 1⟩, ⟨.expressionEnd, "", 1⟩]
  finders := [⟨⟨.tag, "\x7b%", "%\x7d"⟩, some (some 4)⟩, ⟨⟨.expression, "\x7b\x7b", "\x7d\x7d"⟩, some (some 0)⟩,
    ⟨⟨.comment, "\x7b#", "#\x7d"⟩, some none⟩]
  position := 10
  unread := "x\x7b% y %\x7d".toList

theorem quotingSource_searched :
    Reaches (scanTurn {}) (.start {} quotingSource.toList) behindQuotes ∧
      FirstFrom "\x7b%".toList quotingSource.toList 10 (some 11) ∧ FirstFrom "\x7b#".toList quotingSource.toList 10 none ∧
      Yields (afreshTurn {}) { unread := quotingSource.toList }
        (.ok (behindQuotes.tokens ++
          [⟨.text, "x", 1⟩, ⟨.tagStart, "", 1⟩, ⟨.identifier, "y", 1⟩, ⟨.tagEnd, "", 1⟩, ⟨.eof, "", 1⟩])) := by
  have reached : Reaches (scanTurn {}) (.start {} quotingSource.toList) behindQuotes := .single (by decide +kernel)
  obtain ⟨found, afresh⟩ := tokenize_searches_afresh {} quotingSource
  obtain ⟨-, first⟩ := found behindQuotes reached
  have tag := first ⟨⟨.tag, "\x7b%", "%\x7d"⟩, some (some 4)⟩ (.head _)
  have comment := first ⟨⟨.comment, "\x7b#", "#\x7d"⟩, some none⟩ (.tail _ (.tail _ (.head _)))
  exact ⟨reached, tag, comment, (afresh (by decide) _).mpr (by decide +kernel)⟩

end Templating.Source
