/-! # Paths

The parts of a path between slashes. Empty parts and single points lead nowhere; two points lead outward.
-/

namespace Templating.Path

/-- The parts of a text between slashes; `part` is what has been read of the current part, last character
first. -/
def splitParts (part : List Char) : List Char → List (List Char)
  | [] => [part.reverse]
  | c :: rest => if c = '/' then part.reverse :: splitParts [] rest else splitParts (c :: part) rest

/-- The parts of a path between slashes. -/
def parts (path : String) : List String :=
  (splitParts [] path.toList).map String.ofList

/-- Whether a part of a path names something, and does not lead nowhere or outward. -/
def isProper (part : String) : Bool :=
  part != "" && part != "." && part != ".."

/-- Whether a path starts at the top of the file system. -/
def isAbsolute (path : String) : Bool :=
  path.toList.head? == some '/'

/-- The parts of a path that stays below where it starts: it is relative, does not start with a point and
never leads outward. -/
def containedParts? (path : String) : Option (List String) :=
  let all := parts path
  if path = "" ∨ isAbsolute path ∨ all.head? = some "." ∨ all.contains ".." then none
  else some (all.filter isProper)

/-- One path below another. -/
def join (base path : String) : String :=
  if base = "" then path
  else if base.toList.getLast? = some '/' then base ++ path
  else base ++ "/" ++ path

/-- The last name of a path, unless the path leads outward at its end. -/
def fileName? (path : String) : Option String :=
  match ((parts path).filter fun part => part != "" && part != ".").getLast? with
  | some last => if last = ".." then none else some last
  | none => none

/-- The part of a name before its last point, and the part behind it. A point at the front of a name
divides nothing. -/
def splitName (name : String) : String × Option String :=
  let behind := (name.toList.reverse.takeWhile (· != '.')).reverse
  let before := name.toList.take (name.toList.length - behind.length - 1)
  if behind.length = name.toList.length ∨ before.isEmpty then (name, none)
  else (String.ofList before, some (String.ofList behind))

/-- A name without its extension. -/
def stem (name : String) : String :=
  (splitName name).1

/-- The extension of a name. -/
def extension? (name : String) : Option String :=
  (splitName name).2

end Templating.Path
