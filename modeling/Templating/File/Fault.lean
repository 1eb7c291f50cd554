/-! # Faults of files

Why a file or directory cannot be read or written, in the words of the operating system.
-/

namespace Templating

/-- Why a file or directory cannot be read or written. -/
inductive FileFault where
  /-- There is nothing at the path. -/
  | missing
  /-- The path leads through something that is no directory. -/
  | notDirectory
  /-- There is a directory at the path. -/
  | isDirectory
  /-- A name in the path is too long. -/
  | nameTooLong
  /-- The path has a character that no path can have. -/
  | badName
  /-- The content is no text. -/
  | notText
  /-- The system refuses access. -/
  | denied
  /-- Anything else, in the words of the system. -/
  | other (reason : String)
deriving Repr, DecidableEq, BEq

/-- A fault in the words of the operating system. -/
def FileFault.describe : FileFault → String
  | missing => "No such file or directory (os error 2)"
  | notDirectory => "Not a directory (os error 20)"
  | isDirectory => "Is a directory (os error 21)"
  | nameTooLong => "File name too long (os error 36)"
  | badName => "file name contained an unexpected NUL byte"
  | notText => "stream did not contain valid UTF-8"
  | denied => "Permission denied (os error 13)"
  | other reason => reason

end Templating
