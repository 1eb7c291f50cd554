import Templating.Command.Run

/-! # The program

Reads what a command line asks for, runs it and writes what comes out.
-/

namespace Templating.Program

/-- The fault behind a failure of the system. -/
def fault : IO.Error → FileFault
  | .noFileOrDirectory .. => .missing
  | .permissionDenied .. => .denied
  | .inappropriateType _ code _ => if code = 20 then .notDirectory else .isDirectory
  | e => .other (toString e)

/-- The text of a file. -/
def readText (path : String) : IO (Except FileFault String) := do
  match ← (IO.FS.readBinFile path).toBaseIO with
  | .error e => return .error (fault e)
  | .ok content =>
    match String.fromUTF8? content with
    | some text => return .ok text
    | none => return .error .notText

/-- What is at a place, with everything below it. -/
partial def readTree (entry : IO.FS.DirEntry) : IO FileTree := do
  if ← entry.path.isDir then
    let children ← (← entry.path.readDir).toList.mapM fun child => do
      return (child.fileName, ← readTree child)
    return .directory (sortByKey children)
  else
    return .file (← IO.FS.readBinFile entry.path)

/-- The templates below a directory. -/
def readTemplates (path : String) : IO Loader := do
  match ← (readTree ⟨".", path⟩).toBaseIO with
  | .error e => return .unreachable path (fault e)
  | .ok (.file _) => return .unreachable path .notDirectory
  | .ok tree => return (FileLoader.ofDirectory tree "." Command.templateExtension).toLoader

/-- What a command finds outside. -/
def surroundings (command : Command) (options : Options) : IO Surroundings := do
  let texts ← (command.file?.toList ++ options.config.toList).mapM fun path => do
    return (path, ← readText path)
  let loaders ← command.directory?.toList.mapM fun path => do
    return (path, ← readTemplates path)
  let stderr ← IO.getStderr
  return {
    read := fun path => (texts.lookup path).getD (.error .missing)
    templates := fun path => (loaders.lookup path).getD (.unreachable path .missing)
    colored := ColorMode.applies .auto (← stderr.isTty) }

/-- Prints an outcome. -/
def present (outcome : Outcome) : IO UInt32 := do
  IO.print outcome.output
  IO.eprint outcome.report
  return outcome.status

/-- Runs a command line. -/
def run (arguments : List String) : IO UInt32 := do
  let (command, options) := Command.parse arguments
  let outcome := command.run (← surroundings command options) options
  match outcome.written with
  | none => present outcome
  | some result =>
    match ← (IO.FS.writeFile result.path result.text).toBaseIO with
    | .ok () => present outcome
    | .error e => present (.unwritable result.path (fault e))

end Templating.Program

/-- The program. -/
def main (arguments : List String) : IO UInt32 :=
  Templating.Program.run arguments
