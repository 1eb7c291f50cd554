import Templating.Diagnostic.Basic
import Templating.File.Tree

/-! # Loaders

Where the sources of templates come from: from memory, or from the files of a directory.
-/

namespace Templating

/-- Why a source cannot be had. -/
inductive LoaderError where
  /-- No template has the name. -/
  | notFound (name : String)
  /-- The template, or the directory of templates, cannot be read. -/
  | unreadable (name : String) (fault : FileFault)
deriving Repr, DecidableEq, BEq

namespace LoaderError

/-- The name that an error is about. -/
def name : LoaderError → String
  | notFound name => name
  | unreadable name _ => name

/-- The code of an error. -/
def code : LoaderError → DiagnosticCode
  | notFound _ => .templateNotFound
  | unreadable _ _ => .unreadableTemplate

/-- The message of an error. -/
def message : LoaderError → String
  | notFound name => "template `" ++ name ++ "` not found"
  | unreadable name fault => "cannot read template `" ++ name ++ "`: " ++ fault.describe

/-- The diagnostic of an error. -/
def toDiagnostic (e : LoaderError) : Diagnostic where
  code := e.code
  message := e.message
  template := some e.name

end LoaderError

/-- Where the sources of templates come from. -/
structure Loader where
  /-- The source of a template. -/
  fetch : String → Except LoaderError String
  /-- The names of the templates there are, in ascending order. -/
  names : Except LoaderError (List String)

/-- Names in ascending order. -/
def sortNames (names : List String) : List String :=
  names.mergeSort fun a b => decide (a ≤ b)

theorem sortNames_ordered (names : List String) : (sortNames names).Pairwise (· ≤ ·) := by
  have ordered : (sortNames names).Pairwise fun a b => decide (a ≤ b) = true :=
    List.pairwise_mergeSort (by simpa using fun _ _ _ => String.le_trans) (by simpa using String.le_total) names
  exact ordered.imp of_decide_eq_true

namespace Loader

/-- The templates in memory, under their names. -/
def ofList (templates : List (String × String)) : Loader where
  fetch name :=
    match templates.lookup name with
    | some source => .ok source
    | none => .error (.notFound name)
  names := .ok (sortNames (templates.map Prod.fst))

/-- A source of templates that cannot be reached. -/
def unreachable (name : String) (fault : FileFault) : Loader where
  fetch name := .error (.unreadable name fault)
  names := .error (.unreadable name fault)

end Loader

/-- The templates in the files below a directory that have an extension. A template is named by the path
of its file below the directory, without the extension. -/
structure FileLoader where
  /-- The files. -/
  tree : FileTree
  /-- The path of the directory. -/
  root : String
  /-- The extension, without a point in front. -/
  extension : String

namespace FileLoader

/-- The loader of a directory. The extension may be given with points in front. -/
def ofDirectory (tree : FileTree) (root extension : String) : FileLoader :=
  ⟨tree, root, String.ofList (extension.toList.dropWhile (· == '.'))⟩

/-- The path of a template's file below the directory, if the name stays below the directory. -/
def pathFor? (loader : FileLoader) (name : String) : Option String := do
  let parts ← Path.containedParts? name
  let last ← parts.getLast?
  return String.intercalate "/" (parts.dropLast ++ [last ++ "." ++ loader.extension])

/-- The source of a template. -/
def fetch (loader : FileLoader) (name : String) : Except LoaderError String :=
  match loader.pathFor? name with
  | none => .error (.notFound name)
  | some path =>
    match loader.tree.read (Path.join loader.root path) with
    | .ok source => .ok source
    | .error .missing => .error (.notFound name)
    | .error fault => .error (.unreadable name fault)

mutual

/-- The names of the templates in something called `name` below `lead`. -/
def collect (extension lead name : String) : FileTree → List String
  | .file _ => if Path.extension? name = some extension then [lead ++ Path.stem name] else []
  | .directory entries => collectAll extension (lead ++ name ++ "/") entries

/-- The names of the templates in the entries of a directory below `lead`. -/
def collectAll (extension lead : String) : List (String × FileTree) → List String
  | [] => []
  | (name, tree) :: entries => collect extension lead name tree ++ collectAll extension lead entries

end

/-- The names of the templates. -/
def names (loader : FileLoader) : Except LoaderError (List String) :=
  match loader.tree.directoryAt loader.root with
  | .ok directory => .ok (sortNames (collectAll loader.extension "" directory.entries))
  | .error fault => .error (.unreadable loader.root fault)

/-- The loader as a source of templates. -/
def toLoader (loader : FileLoader) : Loader where
  fetch := loader.fetch
  names := loader.names

end FileLoader

end Templating
