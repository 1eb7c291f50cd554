import Templating.File.Tree
import Templating.Proofs.Keyed
import Templating.Proofs.Outcome

/-! # Paths of files

A path joined from names is parted into these names again. A name is divided at its last point, unless nothing is in front
of it, and so a name joined from a stem and an extension without points is divided into the two. What a path leads to in a
directory, as long as it does not lead outward, is decided by the directory alone.
-/

namespace Templating

namespace Path

theorem splitParts_slash (part front rest : List Char) :
    splitParts part (front ++ '/' :: rest) = splitParts part front ++ splitParts [] rest := by
  induction front generalizing part with
  | nil => simp [splitParts]
  | cons c front ih =>
      simp only [List.cons_append, splitParts]
      split
      · rw [ih, List.cons_append]
      · exact ih (c :: part)

theorem splitParts_front {part front : List Char} (unparted : '/' ∉ front) (text : List Char) :
    splitParts part (front ++ text) = splitParts (front.reverse ++ part) text := by
  induction front generalizing part with
  | nil => rfl
  | cons c front ih =>
      simp only [List.mem_cons, not_or] at unparted
      rw [List.cons_append, splitParts, if_neg (Ne.symm unparted.1), ih unparted.2, List.reverse_cons, List.append_assoc]
      rfl

theorem splitParts_of_unparted {part text : List Char} (unparted : '/' ∉ text) : splitParts part text = [part.reverse ++ text] := by
  rw [← List.append_nil text, splitParts_front unparted, splitParts]
  simp

theorem unparted_of_mem_splitParts {part text : List Char} (begun : '/' ∉ part) :
    ∀ name ∈ splitParts part text, '/' ∉ name := by
  induction text generalizing part with
  | nil => simpa [splitParts] using begun
  | cons c text ih =>
      rw [splitParts]
      split
      · exact List.forall_mem_cons.mpr ⟨by simpa using begun, ih List.not_mem_nil⟩
      · rename_i other
        exact ih (by simp [begun, Ne.symm other])

theorem splitParts_begun (text : List Char) :
    ∃ first others, ∀ part, splitParts part text = (part.reverse ++ first) :: others := by
  induction text with
  | nil => exact ⟨[], [], fun part => by simp [splitParts]⟩
  | cons c text ih =>
      obtain ⟨first, others, begun⟩ := ih
      by_cases slash : c = '/'
      · refine ⟨[], splitParts [] text, fun part => ?_⟩
        rw [splitParts, if_pos slash, List.append_nil]
      · refine ⟨c :: first, others, fun part => ?_⟩
        rw [splitParts, if_neg slash, begun, List.reverse_cons, List.append_assoc]
        rfl

theorem parts_slash (front rest : String) : parts (front ++ "/" ++ rest) = parts front ++ parts rest := by
  have slashed : (front ++ "/" ++ rest).toList = front.toList ++ '/' :: rest.toList := by simp
  rw [parts, slashed, splitParts_slash, List.map_append]
  rfl

theorem parts_trailing (front : String) : parts (front ++ "/") = parts front ++ [""] := by
  rw [← String.append_empty (s := front ++ "/"), parts_slash]
  rfl

theorem parts_of_unparted {name : String} (unparted : '/' ∉ name.toList) : parts name = [name] := by
  rw [parts, splitParts_of_unparted unparted]
  simp

theorem parts_front {front : String} (unparted : '/' ∉ front.toList) (text : String) :
    ∃ first others, parts text = first :: others ∧ parts (front ++ text) = (front ++ first) :: others := by
  obtain ⟨first, others, begun⟩ := splitParts_begun text.toList
  refine ⟨.ofList first, others.map .ofList, ?_, ?_⟩
  · simp [parts, begun]
  · rw [parts, String.toList_append, splitParts_front unparted, begun, List.map_cons, List.append_nil, List.reverse_reverse,
      String.ofList_append, String.ofList_toList]

theorem unparted_of_mem_parts {path name : String} (member : name ∈ parts path) : '/' ∉ name.toList := by
  obtain ⟨chars, inside, rfl⟩ := List.mem_map.mp member
  rw [String.toList_ofList]
  exact unparted_of_mem_splitParts List.not_mem_nil chars inside

/-- The path of something in the last of some directories that stand in each other. -/
def within (folders : List String) (name : String) : String :=
  String.intercalate "/" (folders ++ [name])

theorem within_nil (name : String) : within [] name = name := by
  rw [within, List.nil_append, String.intercalate_singleton]

theorem within_cons (folder : String) (folders : List String) (name : String) :
    within (folder :: folders) name = folder ++ "/" ++ within folders name := by
  rw [within, List.cons_append, String.intercalate_cons_of_ne_nil (by simp)]
  rfl

theorem parts_within {folders : List String} (unparted : ∀ folder ∈ folders, '/' ∉ folder.toList) (name : String) :
    parts (within folders name) = folders ++ parts name := by
  induction folders with
  | nil => rw [within_nil, List.nil_append]
  | cons folder folders ih =>
      obtain ⟨first, others⟩ := List.forall_mem_cons.mp unparted
      rw [within_cons, parts_slash, parts_of_unparted first, ih others, List.singleton_append, List.cons_append]

theorem parts_within_unparted {folders : List String} {name : String}
    (unparted : ∀ part ∈ folders ++ [name], '/' ∉ part.toList) : parts (within folders name) = folders ++ [name] := by
  obtain ⟨front, behind⟩ := List.forall_mem_append.mp unparted
  rw [parts_within front, parts_of_unparted (behind name List.mem_cons_self)]

/-- A path that begins with a name is not empty, and does not begin at the top. -/
theorem relative_of_parts {path : String} (begun : (parts path).head? ≠ some "") : path ≠ "" ∧ isAbsolute path = false := by
  constructor
  · rintro rfl
    exact begun rfl
  · rw [isAbsolute, beq_eq_false_iff_ne]
    intro slash
    obtain ⟨rest, begins⟩ := List.head?_eq_some_iff.mp slash
    rw [parts, begins, splitParts, if_pos rfl] at begun
    exact begun rfl

theorem unspoilt_within {c : Char} (other : c ≠ '/') {folders : List String} {name : String}
    (plain : ∀ part ∈ folders ++ [name], c ∉ part.toList) : c ∉ (within folders name).toList := by
  induction folders with
  | nil => simpa [within_nil] using plain
  | cons folder folders ih =>
      obtain ⟨first, others⟩ := List.forall_mem_cons.mp plain
      rw [within_cons]
      simpa [first, other] using ih others

theorem proper_of_containedParts? {path : String} {names : List String} (contained : containedParts? path = some names) :
    ∀ name ∈ names, isProper name = true ∧ '/' ∉ name.toList := by
  simp only [containedParts?] at contained
  split_ifs at contained
  cases contained
  intro name member
  obtain ⟨inside, proper⟩ := List.mem_filter.mp member
  exact ⟨proper, unparted_of_mem_parts inside⟩

theorem containedParts?_outward {path : String} (outward : ".." ∈ parts path) : containedParts? path = none := by
  simp [containedParts?, outward]

/-- Names stay where they are, and points behind them lead nowhere. -/
theorem containedParts?_of_names {path : String} {names rest : List String} (parted : parts path = names ++ rest)
    (filled : names ≠ []) (proper : ∀ name ∈ names, isProper name = true) (nowhere : ∀ part ∈ rest, part = ".") :
    containedParts? path = some names := by
  obtain ⟨first, others, rfl⟩ := List.exists_cons_of_ne_nil filled
  have begun : first ≠ "" ∧ first ≠ "." := by
    have leads := proper first List.mem_cons_self
    simp only [isProper, Bool.and_eq_true, bne_iff_ne] at leads
    exact leads.1
  have inward : ".." ∉ first :: others ++ rest := by
    rw [List.mem_append]
    rintro (outward | outward)
    · cases proper ".." outward
    · exact absurd (nowhere ".." outward) (by decide)
  have kept : (first :: others ++ rest).filter isProper = first :: others := by
    have dropped : rest.filter isProper = [] := List.filter_eq_nil_iff.mpr fun part member => by
      rw [nowhere part member]
      decide
    rw [List.filter_append, List.filter_eq_self.mpr proper, dropped, List.append_nil]
  have filled : (parts path).head? ≠ some "" := by simpa [parted] using begun.1
  obtain ⟨whole, relative⟩ := relative_of_parts filled
  have outset : (parts path).head? ≠ some "." := by simpa [parted] using begun.2
  rw [← parted] at inward kept
  simp [containedParts?, whole, relative, outset, inward, kept]

theorem takeWhile_pointless {text : List Char} (pointless : '.' ∉ text) (rest : List Char) :
    (text ++ rest).takeWhile (· != '.') = text ++ rest.takeWhile (· != '.') := by
  apply List.takeWhile_append_of_pos
  rintro c member
  exact bne_iff_ne.mpr fun point => pointless (point ▸ member)

theorem pointed_ne_outward {name : String} (proper : isProper name = true) (behind : String) : name ++ "." ++ behind ≠ ".." := by
  intro outward
  have chars : name.toList ++ '.' :: behind.toList = ['.', '.'] := by
    simpa using congrArg String.toList outward
  have short : name = "" ∨ name = "." := by
    rw [← String.toList_inj, ← String.toList_inj]
    cases begins : name.toList with
    | nil => exact .inl rfl
    | cons c rest =>
        simp only [begins, List.cons_append, List.cons.injEq, List.append_eq_cons_iff] at chars
        simp_all
  obtain rfl | rfl := short <;> cases proper

theorem splitName_pointed {stem extension : String} (pointless : '.' ∉ extension.toList) :
    splitName (stem ++ "." ++ extension) =
      if stem = "" then (stem ++ "." ++ extension, none) else (stem, some extension) := by
  have chars : (stem ++ "." ++ extension).toList = stem.toList ++ '.' :: extension.toList := by simp
  have backward : '.' ∉ extension.toList.reverse := by simpa using pointless
  have behind : ((stem.toList ++ '.' :: extension.toList).reverse.takeWhile (· != '.')).reverse = extension.toList := by
    simp [takeWhile_pointless backward]
  have before : (stem.toList ++ '.' :: extension.toList).take
      ((stem.toList ++ '.' :: extension.toList).length - extension.toList.length - 1) = stem.toList := by
    have count : (stem.toList ++ '.' :: extension.toList).length - extension.toList.length - 1 = stem.toList.length := by
      rw [List.length_append, List.length_cons]
      omega
    rw [count, List.take_left]
  simp only [splitName, chars, behind, before]
  by_cases empty : stem = ""
  · simp [empty]
  · have longer : extension.toList.length ≠ stem.toList.length + (extension.toList.length + 1) := by omega
    simp [empty, longer]

theorem splitName_pointless {name : String} (pointless : '.' ∉ name.toList) : splitName name = (name, none) := by
  have backward : '.' ∉ name.toList.reverse := by simpa using pointless
  have whole := takeWhile_pointless backward []
  simp only [List.append_nil, List.takeWhile_nil] at whole
  simp [splitName, whole]

theorem exists_pointed {name : String} (pointed : '.' ∈ name.toList) :
    ∃ stem extension : String, name = stem ++ "." ++ extension ∧ '.' ∉ extension.toList := by
  obtain ⟨behind, before, split, pointless⟩ := List.eq_append_cons_of_mem (List.mem_reverse.mpr pointed)
  refine ⟨.ofList before.reverse, .ofList behind.reverse, ?_, by simpa using pointless⟩
  rw [← String.toList_inj, ← List.reverse_inj, split]
  simp

theorem of_extension? {name extension : String} (found : extension? name = some extension) :
    '.' ∉ extension.toList ∧ stem name ≠ "" ∧ name = stem name ++ "." ++ extension := by
  unfold extension? at found
  unfold stem
  by_cases pointed : '.' ∈ name.toList
  · obtain ⟨front, behind, rfl, pointless⟩ := exists_pointed pointed
    rw [splitName_pointed pointless] at found ⊢
    split at found
    · cases found
    · rename_i filled
      cases found
      rw [if_neg filled]
      exact ⟨pointless, filled, rfl⟩
  · rw [splitName_pointless pointed] at found
    cases found

theorem stem_pointed {front extension : String} (pointless : '.' ∉ extension.toList) (filled : front ≠ "") :
    extension? (front ++ "." ++ extension) = some extension ∧ stem (front ++ "." ++ extension) = front := by
  simp [extension?, stem, splitName_pointed pointless, filled]

end Path

namespace FileTree

/-- What a path begins with is refused, or leads somewhere from where the rest is followed. -/
theorem follow_append (outer : List FileTree) (tree : FileTree) (front : List String) :
    (∃ fault, ∀ rest, follow outer tree (front ++ rest) = .error fault) ∨
      ∃ around reached, ∀ rest, follow outer tree (front ++ rest) = follow around reached rest := by
  induction front generalizing outer tree with
  | nil => exact .inr ⟨outer, tree, fun rest => rfl⟩
  | cons part front ih =>
      cases tree with
      | file content => exact .inl ⟨.notDirectory, fun rest => rfl⟩
      | directory entries =>
          simp only [List.cons_append, follow]
          split_ifs with nowhere outward long
          · exact ih outer (directory entries)
          · cases outer with
            | nil => exact .inl ⟨.missing, fun rest => rfl⟩
            | cons parent outer => exact ih outer parent
          · exact .inl ⟨.nameTooLong, fun rest => rfl⟩
          · cases entries.lookup part with
            | none => exact .inl ⟨.missing, fun rest => rfl⟩
            | some child => exact ih (directory entries :: outer) child

theorem follow_behind {outer : List FileTree} {tree reached : FileTree} {front : List String}
    (leads : follow outer tree front = .ok reached) :
    ∃ around, ∀ rest, follow outer tree (front ++ rest) = follow around reached rest := by
  obtain ⟨fault, refused⟩ | ⟨around, there, rests⟩ := follow_append outer tree front
  · rw [← List.append_nil front, refused] at leads
    cases leads
  · have arrived := rests []
    rw [List.append_nil, leads, follow] at arrived
    cases arrived
    exact ⟨around, rests⟩

theorem follow_within {path : List String} (inward : ".." ∉ path) (outer around : List FileTree) (tree : FileTree) :
    follow outer tree path = follow around tree path := by
  induction path generalizing outer around tree with
  | nil => rfl
  | cons part path ih =>
      simp only [List.mem_cons, not_or] at inward
      cases tree with
      | file content => rfl
      | directory entries =>
          simp only [follow, Ne.symm inward.1, if_false]
          split_ifs
          · exact ih inward.2 outer around _
          · rfl
          · split
            · exact ih inward.2 _ _ _
            · rfl

theorem follow_slash {outer : List FileTree} {tree : FileTree} {front : List String} {entries : List (String × FileTree)}
    (leads : follow outer tree (front ++ [""]) = .ok (directory entries)) :
    ∃ around, ∀ rest, follow outer tree (front ++ rest) = follow around (directory entries) rest := by
  obtain ⟨fault, refused⟩ | ⟨around, there, rests⟩ := follow_append outer tree front
  · rw [refused] at leads
    cases leads
  · rw [rests] at leads
    cases there with
    | file content => cases leads
    | directory others =>
        cases leads
        exact ⟨around, rests⟩

theorem of_find {tree reached : FileTree} {path : String} (found : tree.find path = .ok reached) :
    '\x00' ∉ path.toList ∧ path ≠ "" ∧ Path.isAbsolute path = false ∧ tree.follow [] (Path.parts path) = .ok reached := by
  unfold find at found
  split_ifs at found with plain named
  simp only [not_or, Bool.not_eq_true] at named
  exact ⟨by simpa using plain, named.1, named.2, found⟩

theorem find_relative {path : String} (plain : '\x00' ∉ path.toList) (filled : path ≠ "")
    (relative : Path.isAbsolute path = false) (tree : FileTree) : tree.find path = tree.follow [] (Path.parts path) := by
  simp [find, plain, filled, relative]

theorem of_directoryAt {tree dir : FileTree} {path : String} (found : tree.directoryAt path = .ok dir) :
    tree.find path = .ok dir ∧ ∃ entries, dir = directory entries := by
  unfold directoryAt at found
  cases arrived : tree.find path with
  | error fault => rw [arrived] at found; cases found
  | ok reached =>
      rw [arrived] at found
      cases reached with
      | file content => cases found
      | directory entries =>
          cases found
          exact ⟨rfl, entries, rfl⟩

theorem find_below {tree dir : FileTree} {around : List FileTree} {front path : String} (plain : '\x00' ∉ front.toList)
    (begun : front ≠ "") (relative : Path.isAbsolute front = false)
    (leads : ∀ rest, follow [] tree (Path.parts front ++ rest) = follow around dir rest)
    (filled : path ≠ "") (below : Path.isAbsolute path = false) (inward : ".." ∉ Path.parts path) :
    tree.find (front ++ "/" ++ path) = dir.find path := by
  by_cases spoilt : '\x00' ∈ path.toList
  · simp [find, spoilt]
  · have joined : '\x00' ∉ (front ++ "/" ++ path).toList := by
      simp [plain, spoilt]
    have open' : Path.isAbsolute (front ++ "/" ++ path) = false := by
      obtain ⟨c, rest, begins⟩ := List.exists_cons_of_ne_nil (fun empty => begun (String.toList_eq_nil_iff.mp empty))
      simpa [Path.isAbsolute, begins] using relative
    rw [find_relative joined (by simp) open', find_relative spoilt filled below, Path.parts_slash, leads]
    exact follow_within inward around [] dir

theorem find_join {tree dir : FileTree} {root path : String} (found : tree.directoryAt root = .ok dir)
    (filled : path ≠ "") (below : Path.isAbsolute path = false) (inward : ".." ∉ Path.parts path) :
    tree.find (Path.join root path) = dir.find path := by
  obtain ⟨reached, entries, rfl⟩ := of_directoryAt found
  obtain ⟨plain, begun, relative, leads⟩ := of_find reached
  by_cases slashed : root.toList.getLast? = some '/'
  · obtain ⟨front, ends⟩ := List.getLast?_eq_some_iff.mp slashed
    obtain rfl : root = String.ofList front ++ "/" := by
      rw [← String.toList_inj]
      simpa using ends
    rw [Path.parts_trailing] at leads
    obtain ⟨around, rests⟩ := follow_slash leads
    rw [Path.join, if_neg begun, if_pos slashed]
    refine find_below ?_ ?_ ?_ rests filled below inward
    · simp_all
    · rintro empty
      simp [empty, Path.isAbsolute] at relative
    · cases front with
      | nil => rfl
      | cons c front => simpa [Path.isAbsolute] using relative
  · obtain ⟨around, rests⟩ := follow_behind leads
    rw [Path.join, if_neg begun, if_neg slashed]
    exact find_below plain begun relative rests filled below inward

theorem read_join {tree dir : FileTree} {root path : String} (found : tree.directoryAt root = .ok dir)
    (filled : path ≠ "") (below : Path.isAbsolute path = false) (inward : ".." ∉ Path.parts path) :
    tree.read (Path.join root path) = dir.read path := by
  rw [read, read, find_join found filled below inward]

/-- A name that something in a directory can have. -/
structure IsEntryName (name : String) : Prop where
  proper : Path.isProper name = true
  unparted : '/' ∉ name.toList
  plain : '\x00' ∉ name.toList
  short : name.utf8ByteSize ≤ nameLimit

instance (name : String) : Decidable (IsEntryName name) :=
  decidable_of_iff (Path.isProper name = true ∧ '/' ∉ name.toList ∧ '\x00' ∉ name.toList ∧ name.utf8ByteSize ≤ nameLimit)
    ⟨fun ⟨proper, unparted, plain, short⟩ => ⟨proper, unparted, plain, short⟩,
      fun ⟨proper, unparted, plain, short⟩ => ⟨proper, unparted, plain, short⟩⟩

/-- What stands in the directories of a tree has such names, and no two things in one directory have the same. -/
inductive WellNamed : FileTree → Prop where
  | file (content : ByteArray) : WellNamed (file content)
  | directory {entries : List (String × FileTree)} (ascending : Ascending entries)
      (names : ∀ entry ∈ entries, IsEntryName entry.1) (below : ∀ entry ∈ entries, WellNamed entry.2) :
      WellNamed (directory entries)

/-- A file stands in a directory, behind the names of the directories on the way. -/
inductive HasFile : FileTree → List String → String → ByteArray → Prop where
  | here {entries : List (String × FileTree)} {name : String} {content : ByteArray}
      (member : (name, file content) ∈ entries) : HasFile (directory entries) [] name content
  | within {entries : List (String × FileTree)} {folder : String} {child : FileTree} {folders : List String} {name : String}
      {content : ByteArray} (member : (folder, child) ∈ entries) (inside : HasFile child folders name content) :
      HasFile (directory entries) (folder :: folders) name content

theorem not_hasFile_file {inner content : ByteArray} {folders : List String} {name : String} :
    ¬ (file inner).HasFile folders name content := by
  rintro ⟨⟩

theorem hasFile_nil {entries : List (String × FileTree)} {name : String} {content : ByteArray} :
    (directory entries).HasFile [] name content ↔ (name, file content) ∈ entries := by
  constructor
  · rintro ⟨member⟩
    exact member
  · exact .here

theorem hasFile_cons {entries : List (String × FileTree)} {folder : String} {folders : List String} {name : String}
    {content : ByteArray} : (directory entries).HasFile (folder :: folders) name content ↔
      ∃ child, (folder, child) ∈ entries ∧ child.HasFile folders name content := by
  constructor
  · rintro ⟨⟩
    exact ⟨_, ‹_›, ‹_›⟩
  · rintro ⟨child, member, inside⟩
    exact .within member inside

theorem isEntryName_of_hasFile {dir : FileTree} {folders : List String} {name : String} {content : ByteArray}
    (named : dir.WellNamed) (has : dir.HasFile folders name content) : ∀ part ∈ folders ++ [name], IsEntryName part := by
  induction has with
  | here member =>
      cases named with
      | directory ascending names below =>
          intro part last
          obtain rfl := List.mem_singleton.mp last
          exact names _ member
  | within member inside ih =>
      cases named with
      | directory ascending names below =>
          exact List.forall_mem_cons.mpr ⟨names _ member, ih (below _ member)⟩

theorem follow_of_hasFile {dir : FileTree} {folders : List String} {name : String} {content : ByteArray}
    (named : dir.WellNamed) (has : dir.HasFile folders name content) (outer : List FileTree) :
    follow outer dir (folders ++ [name]) = .ok (file content) := by
  induction has generalizing outer with
  | here member =>
      cases named with
      | directory ascending names below =>
          obtain ⟨proper, -, -, short⟩ := names _ member
          simp only [Path.isProper, Bool.and_eq_true, bne_iff_ne] at proper
          simp [follow, proper, short.not_gt, ascending.lookup_eq_some_iff.mpr member]
  | within member inside ih =>
      cases named with
      | directory ascending names below =>
          obtain ⟨proper, -, -, short⟩ := names _ member
          simp only [Path.isProper, Bool.and_eq_true, bne_iff_ne] at proper
          simp [follow, proper, short.not_gt, ascending.lookup_eq_some_iff.mpr member, ih (below _ member)]

theorem path_of_hasFile {dir : FileTree} {folders : List String} {name : String} {content : ByteArray}
    (named : dir.WellNamed) (has : dir.HasFile folders name content) :
    Path.parts (Path.within folders name) = folders ++ [name] ∧ Path.within folders name ≠ "" ∧
      Path.isAbsolute (Path.within folders name) = false ∧ ".." ∉ Path.parts (Path.within folders name) := by
  have names := isEntryName_of_hasFile named has
  have parted := Path.parts_within_unparted fun part member => (names part member).unparted
  have begun : (Path.parts (Path.within folders name)).head? ≠ some "" := by
    rw [parted]
    intro nameless
    cases (names "" (List.mem_of_head? nameless)).proper
  obtain ⟨filled, relative⟩ := Path.relative_of_parts begun
  refine ⟨parted, filled, relative, ?_⟩
  rw [parted]
  intro outward
  cases (names ".." outward).proper

theorem read_of_hasFile {dir : FileTree} {folders : List String} {name : String} {content : ByteArray}
    (named : dir.WellNamed) (has : dir.HasFile folders name content) :
    dir.read (Path.within folders name) =
      match String.fromUTF8? content with
      | some text => .ok text
      | none => .error .notText := by
  obtain ⟨parted, filled, relative, -⟩ := path_of_hasFile named has
  have plain := Path.unspoilt_within (by decide) fun part member => (isEntryName_of_hasFile named has part member).plain
  rw [read, find_relative plain filled relative, parted, follow_of_hasFile named has]
  rfl

end FileTree

end Templating
