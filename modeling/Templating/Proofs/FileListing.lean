import Templating.Compiler.Loader
import Templating.Proofs.FilePaths

/-! # The templates of a directory

The files of a directory that have an extension are listed by where they stand, with the extension taken off, and a name is
fetched by putting the extension on again. The two undo each other where a file has something in front of its extension that
is no path of its own. An extension in which there is a point is the extension of no file, and so nothing is listed for it.
What is fetched never stands outside the directory, unless the extension leads there.
-/

namespace Templating

/-- What fetching a template comes to once its file is found. -/
def contentOf (name : String) (content : ByteArray) : Except LoaderError String :=
  match String.fromUTF8? content with
  | some text => .ok text
  | none => .error (.unreadable name .notText)

namespace FileTree

/-- A file of an extension stands in a directory and has something in front of the extension. -/
def HasTemplate (tree : FileTree) (extension : String) (folders : List String) (stem : String) : Prop :=
  stem ≠ "" ∧ ∃ content, tree.HasFile folders (stem ++ "." ++ extension) content

theorem hasTemplate_entry {entry : String × FileTree} {entries : List (String × FileTree)} {extension : String}
    {folders : List String} {stem : String} : (directory (entry :: entries)).HasTemplate extension folders stem ↔
      (directory [entry]).HasTemplate extension folders stem ∨ (directory entries).HasTemplate extension folders stem := by
  unfold HasTemplate
  rw [← and_or_left, ← exists_or]
  cases folders with
  | nil => simp only [hasFile_nil, List.mem_cons, List.not_mem_nil, or_false]
  | cons folder folders => simp only [hasFile_cons, List.mem_cons, List.not_mem_nil, or_false, or_and_right, exists_or]

theorem not_hasTemplate_nil {extension : String} {folders : List String} {stem : String} :
    ¬ (directory []).HasTemplate extension folders stem := by
  rintro ⟨filled, content, has⟩
  cases has with
  | here member => exact absurd member List.not_mem_nil
  | within member inside => exact absurd member List.not_mem_nil

theorem hasTemplate_folder {name : String} {entries : List (String × FileTree)} {extension : String} {folders : List String}
    {stem : String} : (directory [(name, directory entries)]).HasTemplate extension folders stem ↔
      ∃ inner, folders = name :: inner ∧ (directory entries).HasTemplate extension inner stem := by
  cases folders with
  | nil => simp [HasTemplate, hasFile_nil]
  | cons folder folders =>
      simp only [HasTemplate, hasFile_cons, List.mem_singleton, Prod.mk.injEq, List.cons.injEq]
      constructor
      · rintro ⟨filled, content, child, ⟨rfl, rfl⟩, inside⟩
        exact ⟨folders, ⟨rfl, rfl⟩, filled, content, inside⟩
      · rintro ⟨inner, ⟨rfl, rfl⟩, filled, content, inside⟩
        exact ⟨filled, content, _, ⟨rfl, rfl⟩, inside⟩

theorem wellNamed_of_cons {entry : String × FileTree} {entries : List (String × FileTree)}
    (named : (directory (entry :: entries)).WellNamed) :
    (directory [entry]).WellNamed ∧ (directory entries).WellNamed := by
  cases named with
  | directory ascending names below =>
      obtain ⟨name, others⟩ := List.forall_mem_cons.mp names
      obtain ⟨inside, behind⟩ := List.forall_mem_cons.mp below
      exact ⟨.directory (List.pairwise_singleton _ _) (by simpa using name) (by simpa using inside),
        .directory (List.pairwise_cons.mp ascending).2 others behind⟩

theorem hasTemplate_once {entry : String × FileTree} {entries : List (String × FileTree)} {extension : String}
    {folders : List String} {stem : String} (named : (directory (entry :: entries)).WellNamed)
    (has : (directory [entry]).HasTemplate extension folders stem) :
    ¬ (directory entries).HasTemplate extension folders stem := by
  obtain ⟨-, content, first⟩ := has
  rintro ⟨-, content', later⟩
  cases named with
  | directory ascending names below =>
      have apart := (List.pairwise_cons.mp ascending).1
      cases folders with
      | nil =>
          obtain rfl := List.mem_singleton.mp (hasFile_nil.mp first)
          exact (apart _ (hasFile_nil.mp later)).ne rfl
      | cons folder folders =>
          obtain ⟨child, single, -⟩ := hasFile_cons.mp first
          obtain ⟨child', member, -⟩ := hasFile_cons.mp later
          obtain rfl := List.mem_singleton.mp single
          exact (apart _ member).ne rfl

section

variable {dir : FileTree} {extension : String} {folders : List String} {stem : String}

theorem isEntryName_of_hasTemplate (named : dir.WellNamed) (has : dir.HasTemplate extension folders stem) :
    (∀ folder ∈ folders, IsEntryName folder) ∧ IsEntryName (stem ++ "." ++ extension) := by
  obtain ⟨filled, content, file⟩ := has
  obtain ⟨around, last⟩ := List.forall_mem_append.mp (isEntryName_of_hasFile named file)
  exact ⟨around, last _ List.mem_cons_self⟩

theorem parts_of_hasTemplate (named : dir.WellNamed) (has : dir.HasTemplate extension folders stem) :
    Path.parts (Path.within folders stem) = folders ++ [stem] := by
  obtain ⟨names, last⟩ := isEntryName_of_hasTemplate named has
  refine Path.parts_within_unparted (List.forall_mem_append.mpr ⟨fun folder member => (names folder member).unparted, ?_⟩)
  have unparted := last.unparted
  simp_all

end

end FileTree

namespace FileLoader

open FileTree

section

variable {extension : String}

mutual

theorem mem_collect (lead name : String) (tree : FileTree) (listed : String) :
    listed ∈ collect extension lead name tree ↔ '.' ∉ extension.toList ∧ ∃ folders stem,
      (directory [(name, tree)]).HasTemplate extension folders stem ∧ listed = lead ++ Path.within folders stem := by
  cases tree with
  | file content =>
      rw [collect, List.mem_ite_nil_right, List.mem_singleton]
      constructor
      · rintro ⟨extended, rfl⟩
        obtain ⟨pointless, filled, whole⟩ := Path.of_extension? extended
        refine ⟨pointless, [], Path.stem name, ⟨filled, content, ?_⟩, by rw [Path.within_nil]⟩
        rw [hasFile_nil, ← whole]
        exact List.mem_cons_self
      · rintro ⟨pointless, folders, stem, ⟨filled, inner, has⟩, rfl⟩
        cases folders with
        | nil =>
            obtain ⟨rfl, rfl⟩ : stem ++ "." ++ extension = name ∧ inner = content := by
              simpa [hasFile_nil] using has
            obtain ⟨extended, stemmed⟩ := Path.stem_pointed pointless filled
            exact ⟨extended, by rw [stemmed, Path.within_nil]⟩
        | cons folder folders =>
            obtain ⟨child, member, inside⟩ := hasFile_cons.mp has
            obtain ⟨rfl, rfl⟩ : folder = name ∧ child = file content := by simpa using member
            exact absurd inside not_hasFile_file
  | directory entries =>
      rw [collect, mem_collectAll]
      refine and_congr_right fun _ => ?_
      constructor
      · rintro ⟨inner, stem, has, rfl⟩
        refine ⟨name :: inner, stem, hasTemplate_folder.mpr ⟨inner, rfl, has⟩, ?_⟩
        simp only [Path.within_cons, String.append_assoc]
      · rintro ⟨folders, stem, has, rfl⟩
        obtain ⟨inner, rfl, inside⟩ := hasTemplate_folder.mp has
        refine ⟨inner, stem, inside, ?_⟩
        simp only [Path.within_cons, String.append_assoc]

theorem mem_collectAll (lead : String) (entries : List (String × FileTree)) (listed : String) :
    listed ∈ collectAll extension lead entries ↔ '.' ∉ extension.toList ∧ ∃ folders stem,
      (directory entries).HasTemplate extension folders stem ∧ listed = lead ++ Path.within folders stem := by
  cases entries with
  | nil => simp [collectAll, not_hasTemplate_nil]
  | cons entry entries =>
      obtain ⟨name, tree⟩ := entry
      have apart : ∀ folders stem, (directory ((name, tree) :: entries)).HasTemplate extension folders stem ↔
          (directory [(name, tree)]).HasTemplate extension folders stem ∨
            (directory entries).HasTemplate extension folders stem := fun _ _ => hasTemplate_entry
      rw [collectAll, List.mem_append, mem_collect, mem_collectAll lead entries, ← and_or_left, ← exists_or]
      simp only [apart, or_and_right, exists_or]

end

mutual

theorem collect_nodup (lead name : String) {tree : FileTree} (named : (directory [(name, tree)]).WellNamed) :
    (collect extension lead name tree).Nodup := by
  cases tree with
  | file content =>
      rw [collect]
      split_ifs
      · exact List.pairwise_singleton _ _
      · exact .nil
  | directory entries =>
      rw [collect]
      cases named with
      | directory ascending names below => exact collectAll_nodup _ (below _ List.mem_cons_self)

theorem collectAll_nodup (lead : String) {entries : List (String × FileTree)} (named : (directory entries).WellNamed) :
    (collectAll extension lead entries).Nodup := by
  cases entries with
  | nil => exact .nil
  | cons entry entries =>
      obtain ⟨name, tree⟩ := entry
      obtain ⟨single, others⟩ := wellNamed_of_cons named
      rw [collectAll, List.nodup_append]
      refine ⟨collect_nodup lead name single, collectAll_nodup lead others, ?_⟩
      rintro listed first _ later rfl
      obtain ⟨-, folders, stem, has, rfl⟩ := (mem_collect ..).mp first
      obtain ⟨-, folders', stem', has', same⟩ := (mem_collectAll ..).mp later
      have alike : folders ++ [stem] = folders' ++ [stem'] := by
        rw [← parts_of_hasTemplate named (hasTemplate_entry.mpr (.inl has)),
          ← parts_of_hasTemplate named (hasTemplate_entry.mpr (.inr has')), String.append_right_inj lead |>.mp same]
      obtain ⟨rfl, lasts⟩ := List.append_inj' alike rfl
      obtain rfl := List.singleton_inj.mp lasts
      exact hasTemplate_once named has has'

end

end

section

variable {loader : FileLoader} {dir : FileTree} {name path : String}

theorem pathFor?_of_contained {front : List String} {last : String}
    (contained : Path.containedParts? name = some (front ++ [last])) :
    loader.pathFor? name = some (Path.within front (last ++ "." ++ loader.extension)) := by
  simp [pathFor?, contained, Path.within]

theorem of_pathFor? (found : loader.pathFor? name = some path) : ∃ front last,
    Path.containedParts? name = some (front ++ [last]) ∧
      path = Path.within front (last ++ "." ++ loader.extension) := by
  unfold pathFor? at found
  cases contained : Path.containedParts? name with
  | none => rw [contained] at found; cases found
  | some names =>
      obtain rfl | ⟨front, last, rfl⟩ := names.eq_nil_or_concat
      · rw [contained] at found; cases found
      · refine ⟨front, last, by rw [List.concat_eq_append], ?_⟩
        simpa [contained, Path.within, eq_comm] using found

/-- The path of a template leads below the directory, unless the extension leads out of it. -/
theorem pathFor?_inward (inward : ".." ∉ Path.parts loader.extension) (found : loader.pathFor? name = some path) :
    path ≠ "" ∧ Path.isAbsolute path = false ∧ ".." ∉ Path.parts path := by
  obtain ⟨front, last, contained, rfl⟩ := of_pathFor? found
  obtain ⟨around, last'⟩ := List.forall_mem_append.mp (Path.proper_of_containedParts? contained)
  obtain ⟨named, unparted⟩ := last' last List.mem_cons_self
  have pointed : '/' ∉ (last ++ ".").toList := by simpa using unparted
  obtain ⟨first, others, parted, joined⟩ := Path.parts_front pointed loader.extension
  have whole := Path.parts_within (fun part member => (around part member).2) (last ++ "." ++ loader.extension)
  rw [joined] at whole
  have begun : (Path.parts (Path.within front (last ++ "." ++ loader.extension))).head? ≠ some "" := by
    rw [whole]
    cases front with
    | nil => simp
    | cons folder front =>
        intro nameless
        obtain rfl : folder = "" := by simpa using nameless
        cases (around "" List.mem_cons_self).1
  obtain ⟨filled, relative⟩ := Path.relative_of_parts begun
  refine ⟨filled, relative, ?_⟩
  rw [whole, List.mem_append, List.mem_cons]
  rintro (outward | outward | outward)
  · cases (around ".." outward).1
  · exact Path.pointed_ne_outward named first outward.symm
  · exact inward (parted ▸ List.mem_cons_of_mem first outward)

theorem fetch_nowhere (absent : loader.pathFor? name = none) : loader.fetch name = .error (.notFound name) := by
  rw [fetch, absent]

theorem fetch_within (found : loader.tree.directoryAt loader.root = .ok dir)
    (inward : ".." ∉ Path.parts loader.extension) (name : String) :
    loader.fetch name = (FileLoader.mk dir "." loader.extension).fetch name := by
  have itself : dir.directoryAt "." = .ok dir := by
    obtain ⟨-, entries, rfl⟩ := of_directoryAt found
    rfl
  have alike : (FileLoader.mk dir "." loader.extension).pathFor? name = loader.pathFor? name := rfl
  rw [fetch, fetch, alike]
  cases located : loader.pathFor? name with
  | none => rfl
  | some path =>
      obtain ⟨filled, relative, inside⟩ := pathFor?_inward inward located
      simp only [read_join found filled relative inside, read_join itself filled relative inside]

section

variable {folders : List String} {stem : String} {content : ByteArray}

theorem fetch_template (found : loader.tree.directoryAt loader.root = .ok dir) (named : dir.WellNamed) (filled : stem ≠ "")
    (has : dir.HasFile folders (stem ++ "." ++ loader.extension) content) (names : stem ≠ "." ∧ stem ≠ "..") :
    loader.fetch (Path.within folders stem) = contentOf (Path.within folders stem) content := by
  have template : dir.HasTemplate loader.extension folders stem := ⟨filled, content, has⟩
  obtain ⟨around, last⟩ := isEntryName_of_hasTemplate named template
  have proper : ∀ part ∈ folders ++ [stem], Path.isProper part = true := by
    refine List.forall_mem_append.mpr ⟨fun folder member => (around folder member).proper, ?_⟩
    simp [Path.isProper, filled, names]
  have parted : Path.parts (Path.within folders stem) = folders ++ [stem] ++ [] := by
    rw [parts_of_hasTemplate named template, List.append_nil]
  have contained := Path.containedParts?_of_names parted (by simp) proper (by simp)
  obtain ⟨-, whole, relative, inside⟩ := path_of_hasFile named has
  rw [fetch, pathFor?_of_contained contained, contentOf]
  simp only [read_join found whole relative inside, read_of_hasFile named has]
  cases String.fromUTF8? content <;> rfl

theorem pathFor?_outward (named : dir.WellNamed) (has : dir.HasTemplate loader.extension folders "..") :
    loader.pathFor? (Path.within folders "..") = none := by
  have outward : ".." ∈ Path.parts (Path.within folders "..") := by
    rw [parts_of_hasTemplate named has]
    simp
  simp [pathFor?, Path.containedParts?_outward outward]

/-- The name of a file called by an extension behind one point leads to the file of the directory around it. -/
theorem pathFor?_dotted (named : dir.WellNamed) {folder : String}
    (has : dir.HasTemplate loader.extension (folders ++ [folder]) ".") :
    loader.pathFor? (Path.within (folders ++ [folder]) ".") =
      some (Path.within folders (folder ++ "." ++ loader.extension)) := by
  obtain ⟨around, -⟩ := isEntryName_of_hasTemplate named has
  exact pathFor?_of_contained (Path.containedParts?_of_names (parts_of_hasTemplate named has) (by simp)
    (fun part member => (around part member).proper) (by simp))

theorem names_of_directory (found : loader.tree.directoryAt loader.root = .ok dir) (named : dir.WellNamed) :
    ∃ names, loader.names = .ok names ∧ names.Pairwise (· < ·) ∧
      ∀ name, name ∈ names ↔ '.' ∉ loader.extension.toList ∧
        ∃ folders stem, dir.HasTemplate loader.extension folders stem ∧ name = Path.within folders stem := by
  obtain ⟨-, entries, rfl⟩ := of_directoryAt found
  refine ⟨sortNames (collectAll loader.extension "" entries), by simp [names, found, FileTree.entries], ?_, fun name => ?_⟩
  · have once : (sortNames (collectAll loader.extension "" entries)).Nodup :=
      (List.mergeSort_perm _ _).nodup_iff.mpr (collectAll_nodup "" named)
    exact (sortNames_ordered _).imp₂ (fun _ _ order differ => lt_of_le_of_ne order differ) once
  · rw [sortNames, List.mem_mergeSort, mem_collectAll]
    simp only [String.empty_append]

end

end

/-- The files that have the extension of a loader and something in front of it are listed, in ascending order and each once,
unless there is a point in the extension. Each is fetched by the name it is listed under, apart from those called by a point
or two in front of the extension. Whatever is fetched stands in the directory, unless the extension leads out of it. -/
theorem templates_of_directory (loader : FileLoader) {dir : FileTree} (found : loader.tree.directoryAt loader.root = .ok dir)
    (named : dir.WellNamed) :
    ∃ names, loader.names = .ok names ∧ names.Pairwise (· < ·) ∧
      (∀ name, name ∈ names ↔ '.' ∉ loader.extension.toList ∧
        ∃ folders stem, dir.HasTemplate loader.extension folders stem ∧ name = Path.within folders stem) ∧
      (∀ folders stem content, stem ≠ "" → dir.HasFile folders (stem ++ "." ++ loader.extension) content →
        (stem ≠ "." → stem ≠ ".." →
          loader.fetch (Path.within folders stem) = contentOf (Path.within folders stem) content) ∧
        (stem = ".." ∨ stem = "." ∧ folders = [] →
          loader.fetch (Path.within folders stem) = .error (.notFound (Path.within folders stem))) ∧
        ∀ outer folder, stem = "." → folders = outer ++ [folder] →
          loader.pathFor? (Path.within folders stem) = some (Path.within outer (folder ++ "." ++ loader.extension))) ∧
      (".." ∉ Path.parts loader.extension → ∀ name,
        (∀ path, loader.pathFor? name = some path →
          path ≠ "" ∧ Path.isAbsolute path = false ∧ ".." ∉ Path.parts path) ∧
        loader.fetch name = (FileLoader.mk dir "." loader.extension).fetch name) := by
  obtain ⟨names, listed, ascending, members⟩ := names_of_directory found named
  refine ⟨names, listed, ascending, members, ?_, ?_⟩
  · intro folders stem content filled has
    refine ⟨?_, ?_, ?_⟩
    · intro single double
      exact fetch_template found named filled has ⟨single, double⟩
    · rintro (rfl | ⟨rfl, rfl⟩)
      · exact fetch_nowhere (pathFor?_outward named ⟨filled, content, has⟩)
      · exact fetch_nowhere rfl
    · rintro outer folder rfl rfl
      exact pathFor?_dotted named ⟨filled, content, has⟩
  · intro inward name
    exact ⟨fun path located => pathFor?_inward inward located, fetch_within found inward name⟩

/-- Two templates, one of them in a directory of its own, and a file that is none. -/
def pages : FileTree :=
  directory [("notes.txt", file "ignored".toUTF8), ("page.stencil", file "hello".toUTF8),
    ("partials", directory [("header.stencil", file "<h1>".toUTF8)])]

theorem wellNamed_pages : pages.WellNamed := by
  refine .directory ?_ (by decide) ?_
  · simp only [Ascending, List.pairwise_cons, List.forall_mem_cons, List.not_mem_nil, false_imp_iff, implies_true, and_true,
      List.Pairwise.nil, String.lt_iff_toList_lt]
    decide
  · simp only [List.forall_mem_cons, List.not_mem_nil, false_imp_iff, implies_true, and_true]
    exact ⟨.file _, .file _, .directory (List.pairwise_singleton _ _) (by decide) (by simpa using .file _)⟩

/-- The loader of the pages of a site, beside which stands a file of the same extension. -/
def site : FileLoader :=
  ofDirectory (directory [("site", pages), ("site.stencil", file "outside".toUTF8)]) "site" ".stencil"

theorem pages_found : ∃ names, site.names = .ok names ∧ names.Pairwise (· < ·) ∧ "page" ∈ names ∧ "partials/header" ∈ names ∧
    site.fetch "partials/header" = .ok "<h1>" ∧ ∀ name, site.fetch name = (FileLoader.mk pages "." "stencil").fetch name := by
  have found : site.tree.directoryAt site.root = .ok pages := rfl
  have page : pages.HasTemplate site.extension [] "page" := ⟨by decide, "hello".toUTF8, .here (by simp [site, ofDirectory])⟩
  have inside : (directory [("header.stencil", file "<h1>".toUTF8)]).HasFile [] "header.stencil" "<h1>".toUTF8 :=
    .here List.mem_cons_self
  have header : pages.HasFile ["partials"] "header.stencil" "<h1>".toUTF8 := .within (by simp) inside
  obtain ⟨names, listed, ascending, members, fetched, contained⟩ := templates_of_directory site found wellNamed_pages
  refine ⟨names, listed, ascending, ?_, ?_, ?_, ?_⟩
  · exact (members "page").mpr ⟨by decide, [], "page", page, rfl⟩
  · exact (members "partials/header").mpr ⟨by decide, ["partials"], "header", ⟨by decide, _, header⟩, rfl⟩
  · exact (fetched ["partials"] "header" _ (by decide) header).1 (by decide) (by decide)
  · exact fun name => (contained (by decide) name).2

/-- With a point in the extension a file that is fetched is not listed; a file called by the extension behind a point is listed
under a name that fetches another file; and an extension that leads out of the directory is followed there. -/
theorem files_misjudged :
    ((ofDirectory (directory [("page.tar.gz", file "x".toUTF8)]) "." "tar.gz").names = .ok [] ∧
      (ofDirectory (directory [("page.tar.gz", file "x".toUTF8)]) "." "tar.gz").fetch "page" = .ok "x") ∧
    ((∃ names, (ofDirectory (directory [("sub", directory [("..stencil", file "dot".toUTF8)]),
        ("sub.stencil", file "other".toUTF8)]) "." "stencil").names = .ok names ∧ "sub/." ∈ names) ∧
      (ofDirectory (directory [("sub", directory [("..stencil", file "dot".toUTF8)]),
        ("sub.stencil", file "other".toUTF8)]) "." "stencil").fetch "sub/." = .ok "other") ∧
    (ofDirectory (directory [("secret", file "data".toUTF8), ("site", directory [("b.x", directory [])])])
      "site" "x/../../secret").fetch "b" = .ok "data" := by
  refine ⟨⟨congrArg Except.ok List.mergeSort_nil, by rfl⟩, ⟨⟨_, rfl, ?_⟩, by rfl⟩, by rfl⟩
  rw [sortNames, List.mem_mergeSort]
  decide

end FileLoader

end Templating
