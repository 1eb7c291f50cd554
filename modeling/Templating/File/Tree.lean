import Templating.File.Fault
import Templating.File.Path
import Templating.Value.Basic

/-! # File trees

A directory with everything below it, as a value.
-/

namespace Templating

/-- A file or a directory. -/
inductive FileTree where
  /-- A file with its octets. -/
  | file (content : ByteArray)
  /-- A directory, in ascending order of the names. -/
  | directory (entries : List (String × FileTree))

namespace FileTree

/-- An empty directory. -/
def empty : FileTree :=
  directory []

/-- The entries of a directory. -/
def entries : FileTree → List (String × FileTree)
  | file _ => []
  | directory entries => entries

/-- How many octets a name may have. -/
def nameLimit : Nat := 255

/-- Follows the parts of a path from a directory; `outer` are the directories around it. -/
def follow (outer : List FileTree) (tree : FileTree) : List String → Except FileFault FileTree
  | [] => .ok tree
  | part :: rest =>
    match tree with
    | file _ => .error .notDirectory
    | directory entries =>
      if part = "" ∨ part = "." then follow outer tree rest
      else if part = ".." then
        match outer with
        | [] => .error .missing
        | parent :: outer => follow outer parent rest
      else if nameLimit < part.utf8ByteSize then .error .nameTooLong
      else
        match entries.lookup part with
        | some child => follow (tree :: outer) child rest
        | none => .error .missing

/-- What is at a path below a directory. Nothing outside the directory is found. -/
def find (tree : FileTree) (path : String) : Except FileFault FileTree :=
  if path.toList.contains '\x00' then .error .badName
  else if path = "" ∨ Path.isAbsolute path then .error .missing
  else tree.follow [] (Path.parts path)

/-- The text of the file at a path. -/
def read (tree : FileTree) (path : String) : Except FileFault String := do
  match ← tree.find path with
  | directory _ => .error .isDirectory
  | file content =>
    match String.fromUTF8? content with
    | some text => .ok text
    | none => .error .notText

/-- The directory at a path. -/
def directoryAt (tree : FileTree) (path : String) : Except FileFault FileTree := do
  match ← tree.find path with
  | directory entries => .ok (directory entries)
  | file _ => .error .notDirectory

/-- Puts a file at the end of a chain of names, with the directories on the way. -/
def insert (tree : FileTree) (content : FileTree) : List String → FileTree
  | [] => content
  | name :: rest =>
    let child := (tree.entries.lookup name).getD empty
    directory (insertByKey name (child.insert content rest) tree.entries)

/-- Adds a file, with the directories on the way. -/
def addFile (tree : FileTree) (path : String) (content : ByteArray) : FileTree :=
  tree.insert (file content) ((Path.parts path).filter Path.isProper)

/-- Adds an empty directory, with the directories on the way, unless it is there. -/
def addDirectory (tree : FileTree) (path : String) : FileTree :=
  match tree.find path with
  | .ok _ => tree
  | .error _ => tree.insert empty ((Path.parts path).filter Path.isProper)

/-- Whether a file can be written at a path: the directory around it must be there. -/
def writable (tree : FileTree) (path : String) : Except FileFault Unit :=
  match tree.find path with
  | .ok (directory _) => .error .isDirectory
  | .ok (file _) => .ok ()
  | .error .missing =>
    if path = "" then .error .missing
    else
      match (Path.parts path).getLast? with
      | some last =>
        match tree.follow [] (Path.parts path).dropLast with
        | .ok (directory _) => if Path.isProper last then .ok () else .error .isDirectory
        | .ok (file _) => .error .notDirectory
        | .error fault => .error fault
      | none => .error .missing
  | .error fault => .error fault

/-- Writes a text to a file. -/
def write (tree : FileTree) (path text : String) : Except FileFault FileTree := do
  tree.writable path
  return tree.addFile path text.toUTF8

end FileTree

end Templating
