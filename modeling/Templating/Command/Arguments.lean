/-! # Command lines

What the words of a command line ask for.
-/

namespace Templating

/-- The options of the commands that compile. -/
structure Options where
  /-- The file with the configuration. -/
  config : Option String := none
  /-- The file that the result goes to. -/
  output : Option String := none
deriving Repr, DecidableEq, BEq

/-- What a command line asks for. -/
inductive Command where
  /-- How the program is used. -/
  | help
  /-- The version of the program. -/
  | version
  /-- The compiled text of a template. -/
  | compile (path : String)
  /-- The compiled texts of all templates below a directory. -/
  | bundle (path : String)
  /-- The tokens of a template. -/
  | tokens (path : String)
  /-- The annotated tree of a template. -/
  | tree (path : String)
  /-- What a diagnostic code means. -/
  | explain (code : String)
  /-- A command lacks its argument; `usage` says how it is used. -/
  | incomplete (usage : String)
  /-- There is no such command. -/
  | unknown (word : String)
deriving Repr, DecidableEq, BEq

/-- What a word says that starts with the option for the configuration. -/
def Options.configPath? (word : String) : Option String :=
  let option := "--config=".toList
  if option.isPrefixOf word.toList then some (String.ofList (word.toList.drop option.length)) else none

/-- Parts the words behind a command into options and arguments. An option without a value is an argument
like any other, and the last of several options counts. -/
def Options.parse : List String → Options × List String
  | [] => ({}, [])
  | "--config" :: path :: rest =>
    let (options, arguments) := parse rest
    ({ options with config := options.config.or (some path) }, arguments)
  | "-o" :: path :: rest =>
    let (options, arguments) := parse rest
    ({ options with output := options.output.or (some path) }, arguments)
  | word :: rest =>
    let (options, arguments) := parse rest
    match configPath? word with
    | some path => ({ options with config := options.config.or (some path) }, arguments)
    | none => (options, word :: arguments)

namespace Command

/-- The file whose text a command reads. -/
def file? : Command → Option String
  | compile path => some path
  | tokens path => some path
  | tree path => some path
  | _ => none

/-- The directory whose templates a command reads. -/
def directory? : Command → Option String
  | bundle path => some path
  | _ => none

/-- A command that needs an argument. -/
def withArgument (usage : String) (command : String → Command) : List String → Command
  | [] => incomplete usage
  | argument :: _ => command argument

/-- The command that a word names. -/
def ofWord (word : String) (arguments : List String) : Command :=
  match word with
  | "compile" =>
    withArgument "Usage: stencil compile <file> [--config <json>] [-o <out.rs>]\n" compile arguments
  | "bundle" =>
    withArgument "Usage: stencil bundle <dir> [--config <json>] [-o <out.rs>]\n" bundle arguments
  | "tokens" => withArgument "Usage: stencil tokens <file> [--config <json>]\n" tokens arguments
  | "ast" => withArgument "Usage: stencil ast <file> [--config <json>]\n" tree arguments
  | "explain" =>
    withArgument "Usage: stencil explain <error-code>\nExample: stencil explain E1003\n" explain arguments
  | "help" => help
  | "--help" => help
  | "-h" => help
  | "version" => version
  | "--version" => version
  | "-V" => version
  | other => unknown other

/-- What a command line asks for. A command line without words asks for help. -/
def parse : List String → Command × Options
  | [] => (help, {})
  | word :: rest =>
    let (options, arguments) := Options.parse rest
    (ofWord word arguments, options)

end Command

end Templating
