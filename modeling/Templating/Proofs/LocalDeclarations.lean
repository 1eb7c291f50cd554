import Templating.Proofs.LocalScopes

/-! # Declarations of locals

What the lines of code do to the scopes of numbered locals: a line that binds a local declares it for the lines behind, braces
enclose what is declared between them, and the head of a loop declares the names of its pattern for the lines inside.
-/

namespace Templating

namespace Code

def localWord (n : Nat) : List Char :=
  (localName n).toList

theorem localWord_eq (n : Nat) : localWord n = '_' :: 't' :: 'm' :: 'p' :: Nat.toDigits 10 n := by
  rw [localWord, localName, String.toList_append]
  show _ ++ (Nat.repr n).toList = _
  rw [Nat.toList_repr]
  rfl

theorem isTemporary_localWord (n : Nat) : isTemporary (localWord n) = true := by
  rw [localWord_eq, isTemporary]
  have digits : (Nat.toDigits 10 n).all Char.isDigit = true := List.all_eq_true.mpr fun _ member =>
    Nat.isDigit_of_mem_toDigits (by decide) (by decide) member
  rw [digits, Bool.and_true, Bool.not_eq_true', List.isEmpty_eq_false_iff]
  exact Nat.toDigits_ne_nil

theorem lexes_localName (n : Nat) : Lexes (localName n) [.word (localWord n)] := by
  refine lexes_word (fun c member => ?_) fun empty => ?_
  · have within : c ∈ localWord n := member
    rw [localWord_eq] at within
    simp only [List.mem_cons] at within
    rcases within with rfl | rfl | rfl | rfl | digit
    · decide
    · decide
    · decide
    · decide
    · have isDigit := Nat.isDigit_of_mem_toDigits (by decide) (by decide) digit
      simp [isWordChar, Char.isAlphanum, isDigit]
  · have same := localWord_eq n
    rw [localWord, empty] at same
    cases same

namespace Scopes

/-- Between statements nothing is bound and no loop is about to begin. -/
structure Ready (s : Scopes) : Prop where
  role : s.role = .used
  bound : s.current.bound = []
  pattern : s.current.pattern = []

theorem Ready.still {s : Scopes} (ready : s.Ready) : s.Still :=
  ⟨ready.role, ready.pattern⟩

/-- The walk behind declarations, of which some can be used from there on. -/
def grow (s : Scopes) (numbers : List Nat) (more : List (List Char)) : Scopes :=
  { s with
    declared := s.declared ++ numbers.map localWord
    current := { s.current with names := s.current.names ++ more } }

/-- The walk inside a block with these locals. -/
def enter (s : Scopes) (numbers : List Nat) : Scopes :=
  { declared := s.declared ++ numbers.map localWord
    current := { names := numbers.map localWord }
    outer := s.current :: s.outer }

section

variable {s : Scopes}

theorem grow_grow (s : Scopes) (numbers others : List Nat) (more further : List (List Char)) :
    (s.grow numbers more).grow others further = s.grow (numbers ++ others) (more ++ further) := by
  simp [grow]

@[simp] theorem grow_nil (s : Scopes) : s.grow [] [] = s := by
  simp [grow]

theorem Ready.grow (ready : s.Ready) (numbers : List Nat) (more : List (List Char)) : (s.grow numbers more).Ready :=
  ⟨ready.role, ready.bound, ready.pattern⟩

theorem ready_enter (s : Scopes) (numbers : List Nat) : (s.enter numbers).Ready :=
  ⟨rfl, rfl, rfl⟩

theorem sees_grow {name : List Char} (visible : s.sees name = true) (numbers : List Nat) (more : List (List Char)) :
    (s.grow numbers more).sees name = true := by
  simp only [sees, Bool.or_eq_true, List.contains_iff_mem] at visible ⊢
  exact visible.imp_left fun member => List.mem_append_left _ member

theorem sees_grow_new {name : List Char} {more : List (List Char)} (member : name ∈ more) (s : Scopes) (numbers : List Nat) :
    (s.grow numbers more).sees name = true := by
  simp only [sees, Bool.or_eq_true, List.contains_iff_mem]
  exact .inl (List.mem_append_right _ member)

theorem sees_enter {name : List Char} (visible : s.sees name = true) (numbers : List Nat) : (s.enter numbers).sees name = true := by
  simp only [sees, Bool.or_eq_true, List.contains_iff_mem, enter, List.any_cons] at visible ⊢
  exact .inr visible

theorem sees_enter_new {n : Nat} {numbers : List Nat} (member : n ∈ numbers) (s : Scopes) :
    (s.enter numbers).sees (localWord n) = true := by
  simp only [sees, Bool.or_eq_true, List.contains_iff_mem]
  exact .inl (List.mem_map_of_mem member)

end

end Scopes

theorem sees_localName {s : Scopes} {n : Nat} (used : s.role = .used) (visible : s.sees (localWord n) = true) :
    Sees (localName n) s s := by
  refine ⟨_, lexes_localName n, ?_⟩
  obtain ⟨declared, current, outer, role⟩ := s
  cases used
  simp [Scopes.check, Scopes.step, Scopes.word, isTemporary_localWord, visible]

/-- Steps of building text lead from one place of a walk to another. -/
def Passes (edits : List Edit) (s s' : Scopes) : Prop :=
  ∃ found, Closes edits found ∧ s.check found = some s'

/-- Whether a text ends statements: plain but for the marks that do so. -/
def isEnding (text : String) : Bool :=
  (lexemes text).all (fun lexeme => lexeme.isPlain || lexeme == .mark ';')
    && (Scan.run (.code []) text.toList).2 == .code [] && beginsApart text && text != ""

section

variable {first rest : List Edit} {s middle s' : Scopes} {text front content : String}

theorem Passes.nil (s : Scopes) : Passes [] s s :=
  ⟨[], .nil, rfl⟩

theorem Passes.append (one : Passes first s middle) (other : Passes rest middle s') : Passes (first ++ rest) s s' := by
  obtain ⟨found, closes, checked⟩ := one
  obtain ⟨more, closesRest, checkedRest⟩ := other
  exact ⟨found ++ more, closes.append closesRest, by rw [Scopes.check_append, checked]; exact checkedRest⟩

theorem Passes.line (sees : Sees text s s') : Passes [.line text] s s' := by
  obtain ⟨found, lexes, checked⟩ := sees
  exact ⟨found, .line lexes, checked⟩

theorem Passes.indent (s : Scopes) : Passes [.indent] s s :=
  ⟨[], .indent, rfl⟩

theorem Passes.outdent (s : Scopes) : Passes [.outdent] s s :=
  ⟨[], .outdent, rfl⟩

theorem Passes.blank (s : Scopes) : Passes [.blank] s s :=
  ⟨[], .blank, rfl⟩

theorem Scopes.Ready.ending (ready : s.Ready) (ends : isEnding text = true) : Reads text s s := by
  simp only [isEnding, Bool.and_eq_true] at ends
  obtain ⟨⟨⟨each, closed⟩, -⟩, -⟩ := ends
  have behind := beq_iff_eq.mp closed
  refine ⟨lexemes text, Prod.ext (by simp [lexemes, behind, Scan.last, wordLexemes]) behind, ?_⟩
  have each := List.all_eq_true.mp each
  generalize lexemes text = found at each
  induction found with
  | nil => rfl
  | cons lexeme found ih =>
      obtain ⟨first, later⟩ := List.forall_mem_cons.mp each
      have stays : s.step lexeme = some s := by
        rcases Bool.or_eq_true_iff.mp first with plain | ending
        · have alone : s.check [lexeme] = some s := Scopes.check_plain ready.role (List.forall_mem_singleton.mpr plain)
          simpa [Scopes.check] using alone
        · cases beq_iff_eq.mp ending
          obtain ⟨declared, ⟨names, bound, pattern⟩, outer, role⟩ := s
          obtain ⟨role, bound, pattern⟩ := ready
          dsimp only at role bound pattern
          subst role bound pattern
          simp [Scopes.step, Scopes.mark]
      rw [Scopes.check, List.foldlM_cons, stays]
      exact ih later

theorem Scopes.Ready.line (ready : s.Ready) (inside : Sees content s s) (ends : isEnding text = true) :
    Passes [.line (content ++ text)] s s := by
  have ending := ready.ending ends
  simp only [isEnding, Bool.and_eq_true, bne_iff_ne] at ends
  exact .line (inside.append ending ends.1.2 ends.2).sees

/-- The walk inside the statement that binds a local. -/
def Scopes.binding (s : Scopes) (n : Nat) : Scopes :=
  { s with declared := s.declared ++ [localWord n], current := { s.current with bound := [localWord n] } }

theorem Scopes.Ready.still_binding (ready : s.Ready) (n : Nat) : (s.binding n).Still :=
  ⟨ready.role, ready.pattern⟩

/-- A statement that binds a local declares it and lets it be used behind. -/
theorem Scopes.Ready.declares (ready : s.Ready) {n : Nat} {opening : String}
    (opens : Closed opening [.word "let".toList] ∨ Closed opening [.word "let".toList, .word "mut".toList])
    (content_sees : Sees content (s.binding n) (s.binding n)) :
    Passes [.line (opening ++ localName n ++ " = " ++ content ++ ";")] s (s.grow [n] [localWord n]) := by
  obtain ⟨declared, ⟨names, bound, pattern⟩, outer, role⟩ := s
  obtain ⟨role, bound, pattern⟩ := ready
  dsimp only at role bound pattern
  subst role bound pattern
  have begun : Reads opening ⟨declared, ⟨names, [], []⟩, outer, .used⟩ ⟨declared, ⟨names, [], []⟩, outer, .bound⟩ := by
    rcases opens with plain | mutable
    · exact ⟨_, plain, rfl⟩
    · exact ⟨_, mutable, rfl⟩
  have named : Sees (localName n) ⟨declared, ⟨names, [], []⟩, outer, .bound⟩
      ⟨declared ++ [localWord n], ⟨names, [localWord n], []⟩, outer, .bound⟩ := by
    refine ⟨_, lexes_localName n, ?_⟩
    simp [Scopes.check, Scopes.step, Scopes.word, isTemporary_localWord]
  have given : Reads " = " ⟨declared ++ [localWord n], ⟨names, [localWord n], []⟩, outer, .bound⟩
      (Scopes.binding ⟨declared, ⟨names, [], []⟩, outer, .used⟩ n) := ⟨[.mark '='], rfl, rfl⟩
  have ended : Reads ";" (Scopes.binding ⟨declared, ⟨names, [], []⟩, outer, .used⟩ n)
      (Scopes.grow ⟨declared, ⟨names, [], []⟩, outer, .used⟩ [n] [localWord n]) := ⟨[.mark ';'], rfl, rfl⟩
  have bound := (begun.append_sees named).append given (by decide) (by decide)
  exact .line ((bound.append_sees content_sees).append ended (by decide) (by decide)).sees

theorem Scopes.Ready.binds (ready : s.Ready) {n : Nat} (content_sees : Sees content (s.binding n) (s.binding n)) :
    Passes [Code.binding n content] s (s.grow [n] [localWord n]) := by
  have opens : Closed "let " [.word "let".toList] := rfl
  exact ready.declares (.inl opens) content_sees

theorem Scopes.Ready.leaves (ready : s.Ready) (numbers others : List Nat) (more : List (List Char)) {found : List Lexeme}
    (closed : Closed text (.mark '\x7d' :: found)) (plain : ∀ lexeme ∈ found, lexeme.isPlain = true) :
    Reads text ((s.enter numbers).grow others more) (s.grow (numbers ++ others) []) := by
  refine ⟨_, closed, ?_⟩
  have left : ((s.enter numbers).grow others more).step (.mark '\x7d') = some (s.grow (numbers ++ others) []) := by
    obtain ⟨declared, current, outer, role⟩ := s
    cases ready.role
    simp [Scopes.step, Scopes.mark, Scopes.enter, Scopes.grow]
  rw [Scopes.check, List.foldlM_cons, left]
  exact Scopes.check_plain ready.role plain

theorem passes_leave (ready : s.Ready) (numbers others : List Nat) (more : List (List Char)) :
    Passes [.outdent, .line "\x7d"] ((s.enter numbers).grow others more) (s.grow (numbers ++ others) []) := by
  have closed : Closed "\x7d" [.mark '\x7d'] := rfl
  exact (Passes.outdent _).append (.line (ready.leaves numbers others more closed nofun).sees)

theorem passes_braced (ready : s.Ready) {head : String} {inside : List Edit} {numbers others : List Nat}
    {more : List (List Char)} (enters : Sees (head ++ "\x7b") s (s.enter numbers))
    (passes : Passes inside (s.enter numbers) ((s.enter numbers).grow others more)) :
    Passes (braced head inside) s (s.grow (numbers ++ others) []) := by
  have opened : Passes [.line (head ++ "\x7b"), .indent] s (s.enter numbers) :=
    (Passes.line enters).append (Passes.indent _)
  exact (opened.append passes).append (passes_leave ready numbers others more)

theorem Scopes.Ready.enters (ready : s.Ready) (opens : Closed text [.mark '\x7b']) : Reads text s (s.enter []) := by
  refine ⟨_, opens, ?_⟩
  obtain ⟨declared, ⟨names, bound, pattern⟩, outer, role⟩ := s
  obtain ⟨role, bound, pattern⟩ := ready
  dsimp only at role bound pattern
  subst role bound pattern
  simp [Scopes.check, Scopes.step, Scopes.mark, Scopes.enter]

theorem Scopes.Ready.opens {head : String} (ready : s.Ready) (reads : Reads head s s) : Sees (head ++ "\x7b") s (s.enter []) := by
  have brace : Closed "\x7b" [.mark '\x7b'] := rfl
  exact (reads.append (ready.enters brace)).sees

/-- The walk in the head of a loop, behind some of the names of its pattern. -/
def Scopes.heading (s : Scopes) (numbers : List Nat) (role : Role) : Scopes :=
  { s with
    declared := s.declared ++ numbers.map localWord
    current := { s.current with pattern := numbers.map localWord }
    role := role }

theorem Scopes.Ready.begins_loop (ready : s.Ready) : Reads "for (" s (s.heading [] .pattern) := by
  refine ⟨[.word "for".toList, .mark '('], rfl, ?_⟩
  obtain ⟨declared, ⟨names, bound, pattern⟩, outer, role⟩ := s
  obtain ⟨role, bound, pattern⟩ := ready
  dsimp only at role bound pattern
  subst role bound pattern
  simp [Scopes.check, Scopes.step, Scopes.mark, Scopes.word, Scopes.heading, isTemporary]

theorem sees_pattern (s : Scopes) (numbers : List Nat) (n : Nat) :
    Sees (localName n) (s.heading numbers .pattern) (s.heading (numbers ++ [n]) .pattern) := by
  refine ⟨_, lexes_localName n, ?_⟩
  simp [Scopes.check, Scopes.step, Scopes.word, Scopes.heading, isTemporary_localWord]

theorem Scopes.Ready.enters_loop (ready : s.Ready) (numbers : List Nat) (role : Role) :
    Reads "\x7b" (s.heading numbers role) (s.enter numbers) := by
  refine ⟨[.mark '\x7b'], rfl, ?_⟩
  obtain ⟨declared, ⟨names, bound, pattern⟩, outer, before⟩ := s
  obtain ⟨before, bound, pattern⟩ := ready
  dsimp only at before bound pattern
  subst before bound pattern
  simp [Scopes.check, Scopes.step, Scopes.mark, Scopes.heading, Scopes.enter]

theorem Scopes.Ready.each_head (ready : s.Ready) {key value entries : Nat} (visible : s.sees (localWord entries) = true) :
    Sees ("for (" ++ localName key ++ ", " ++ localName value ++ ") in " ++ localName entries ++ " " ++ "\x7b") s
      (s.enter [key, value]) := by
  have comma : Reads ", " (s.heading [key] .pattern) (s.heading [key] .pattern) := ⟨[.mark ','], rfl, rfl⟩
  have within : Reads ") in " (s.heading [key, value] .pattern) (s.heading [key, value] .used) :=
    ⟨[.mark ')', .word "in".toList], rfl, rfl⟩
  have blank : Reads " " (s.heading [key, value] .used) (s.heading [key, value] .used) := ⟨[], rfl, rfl⟩
  have source : Sees (localName entries) (s.heading [key, value] .used) (s.heading [key, value] .used) :=
    sees_localName rfl visible
  have first := (ready.begins_loop.append_sees (sees_pattern s [] key)).append comma (by decide) (by decide)
  have pattern := (first.append_sees (sees_pattern s [key] value)).append within (by decide) (by decide)
  have head := (pattern.append_sees source).append blank (by decide) (by decide)
  exact (head.append (ready.enters_loop [key, value] _)).sees

theorem Scopes.Ready.eachNumbered_head (ready : s.Ready) {index key value entries : Nat}
    (visible : s.sees (localWord entries) = true) :
    Sees ("for (" ++ localName index ++ ", (" ++ localName key ++ ", " ++ localName value ++ ")) in " ++ localName entries
      ++ ".into_iter().enumerate() " ++ "\x7b") s (s.enter [index, key, value]) := by
  have pair : Reads ", (" (s.heading [index] .pattern) (s.heading [index] .pattern) := ⟨[.mark ',', .mark '('], rfl, rfl⟩
  have comma : Reads ", " (s.heading [index, key] .pattern) (s.heading [index, key] .pattern) := ⟨[.mark ','], rfl, rfl⟩
  have within : Reads ")) in " (s.heading [index, key, value] .pattern) (s.heading [index, key, value] .used) :=
    ⟨[.mark ')', .mark ')', .word "in".toList], rfl, rfl⟩
  have source : Sees (localName entries) (s.heading [index, key, value] .used) (s.heading [index, key, value] .used) :=
    sees_localName rfl visible
  have numbered : Reads ".into_iter().enumerate() " (s.heading [index, key, value] .used)
      (s.heading [index, key, value] .used) :=
    ⟨_, rfl, Scopes.check_plain rfl (by decide)⟩
  have first := (ready.begins_loop.append_sees (sees_pattern s [] index)).append pair (by decide) (by decide)
  have second := (first.append_sees (sees_pattern s [index] key)).append comma (by decide) (by decide)
  have pattern := (second.append_sees (sees_pattern s [index, key] value)).append within (by decide) (by decide)
  have head := (pattern.append_sees source).append numbered (by decide) (by decide)
  exact (head.append (ready.enters_loop [index, key, value] _)).sees

end

end Code

end Templating
