import Templating.Command.Arguments
import Templating.Compiler.Basic
import Templating.Diagnostic.Manual
import Templating.Diagnostic.Terminal
import Templating.Tree.Dump

/-! # Running commands

What a command prints and writes, given the files it reads. A file that cannot be read is noticed before
the configuration is looked at, and the configuration before the template.
-/

namespace Templating

/-- A text that a command leaves in a file. -/
structure Written where
  /-- The file. -/
  path : String
  /-- The text. -/
  text : String
deriving Repr, DecidableEq, BEq

/-- What a command does in the end. -/
structure Outcome where
  /-- The status that the program ends with. -/
  status : UInt32 := 0
  /-- What is printed as the result. -/
  output : String := ""
  /-- What is printed as a report of what went wrong. -/
  report : String := ""
  /-- What is written to a file. -/
  written : Option Written := none
deriving Repr, DecidableEq, BEq

/-- The outcome of a command that fails. -/
def Outcome.failure (report : String) : Outcome where
  status := 1
  report := report

/-- The outcome when the file that is to be written cannot be written. -/
def Outcome.unwritable (path : String) (fault : FileFault) : Outcome :=
  .failure ("error writing '" ++ path ++ "': " ++ fault.describe ++ "\n")

/-- What a command finds outside. -/
structure Surroundings where
  /-- The text of a file. -/
  read : String → Except FileFault String
  /-- The templates below a directory. -/
  templates : String → Loader
  /-- Whether reports are coloured. -/
  colored : Bool := false

namespace Command

/-- How the program is used. -/
def usage : String :=
  "Stencil template compiler\n"
    ++ "\n"
    ++ "Usage: stencil <command> [options]\n"
    ++ "\n"
    ++ "Commands:\n"
    ++ "  compile <file>     Compile one template to a Rust module\n"
    ++ "  bundle <dir>       Compile every .stencil file under <dir> into one file\n"
    ++ "  tokens <file>      Show the token stream\n"
    ++ "  ast <file>         Show the optimized syntax tree\n"
    ++ "  explain <code>     Explain an error code\n"
    ++ "  help               Show this message\n"
    ++ "  version            Show the version\n"
    ++ "\n"
    ++ "Options:\n"
    ++ "  --config <json>    Read configuration from a JSON file\n"
    ++ "  -o <path>          Write output to <path> instead of stdout\n"
    ++ "\n"
    ++ "Set RUST_LOG (e.g. RUST_LOG=stencilc=debug) for compiler tracing.\n"

/-- The extension of the files that a bundle is made of. -/
def templateExtension : String := "stencil"

/-- The name of the template in a file. -/
def templateName (path : String) : String :=
  ((Path.fileName? path).map Path.stem).getD path

/-- Why a template cannot be read. -/
def unreadable (path : String) : FileFault → String
  | .missing => "cannot find file '" ++ path ++ "'\n"
  | .denied => "permission denied reading '" ++ path ++ "'\n"
  | .notText => "'" ++ path ++ "' contains invalid UTF-8 data\n"
  | fault => "error reading '" ++ path ++ "': " ++ fault.describe ++ "\n"

/-- The outcome of a command that fails with a diagnostic, which quotes the source if there is one. -/
def refusal (s : Surroundings) (e : TemplateError) (source : Option String) : Outcome :=
  .failure (e.toDiagnostic.render s.colored source)

/-- The outcome of a command whose result is a text for a file or the screen. -/
def deliver (options : Options) (text : String) : Outcome :=
  match options.output with
  | some path => { written := some ⟨path, text⟩ }
  | none => { output := text }

/-- The configuration that the options name. -/
def config (s : Surroundings) (options : Options) : Except TemplateError Config :=
  match options.config with
  | none => .ok {}
  | some path =>
    match s.read path with
    | .error fault => .error (.config (.unreadable path fault))
    | .ok text =>
      match Config.read text with
      | .ok config => .ok config
      | .error fault => .error (.config fault)

/-- The compiler that the options ask for. -/
def compiler (s : Surroundings) (options : Options) (loader : Loader) : Except TemplateError Compiler := do
  let config ← config s options
  Compiler.build config loader []

/-- The outcome of a command about the template in a file. -/
def onFile {α : Type} (s : Surroundings) (options : Options) (path : String)
    (work : Compiler → String → String → Except TemplateError α) (present : Compiler → α → Outcome) :
    Outcome :=
  match s.read path with
  | .error fault => .failure (unreadable path fault)
  | .ok source =>
    match compiler s options (.ofList []) with
    | .error e => refusal s e none
    | .ok c =>
      match work c (templateName path) source with
      | .error e => refusal s e (some source)
      | .ok result => present c result

/-- A number with at least four places. -/
def placed (n : Nat) : String :=
  let digits := toString n
  String.ofList (List.replicate (4 - digits.length) ' ') ++ digits

/-- The line of a token. -/
def tokenLine (t : Token) : String :=
  "  " ++ placed t.line ++ "  " ++ t.kind.name ++ " " ++ Text.quote t.value ++ "\n"

/-- The tokens of a file in print. -/
def tokenTable (path : String) (tokens : List Token) : String :=
  "Tokens for '" ++ path ++ "' (" ++ toString tokens.length ++ " tokens):\n"
    ++ String.join (tokens.map tokenLine)

/-- The outcome of a bundle. -/
def runBundle (s : Surroundings) (options : Options) (path : String) : Outcome :=
  let loader := s.templates path
  match compiler s options loader with
  | .error e => refusal s e none
  | .ok c =>
    match loader.names with
    | .error e => refusal s (.loader e) none
    | .ok [] => .failure ("no ." ++ templateExtension ++ " files found under '" ++ path ++ "'\n")
    | .ok names =>
      match (c.compileBundle names).1 with
      | .ok text => deliver options text
      | .error e => refusal s e (e.template?.bind fun name => (loader.fetch name).toOption)

/-- The outcome of an explanation. -/
def runExplain (code : String) : Outcome :=
  match DiagnosticCode.find? code with
  | none =>
    .failure ("Unknown error code: " ++ code ++ "\n\nCodes have the format EXXXX where X is a digit.\n"
      ++ "Examples: E0001, E1003, E2001, E4001\n")
  | some known =>
    match known.explanation? with
    | some text => { output := text ++ "\n" }
    | none => .failure ("No documentation available for " ++ code ++ "\n")

/-- The outcome of a command. -/
def run (s : Surroundings) (options : Options) : Command → Outcome
  | help => { output := usage }
  | version => { output := "stencil 0.1.0\n" }
  | compile path => onFile s options path Compiler.compileSource fun _ text => deliver options text
  | bundle path => runBundle s options path
  | tokens path =>
    onFile s options path Compiler.tokenize fun _ tokens => { output := tokenTable path tokens }
  | tree path =>
    onFile s options path Compiler.parse fun c arena => { output := (c.optimize arena).dump c.registries }
  | explain code => runExplain code
  | incomplete usage => .failure usage
  | unknown word => { status := 1, output := usage, report := "Unknown command: " ++ word ++ "\n\n" }

end Command

/-- What a command finds in a file tree. -/
def FileTree.surroundings (tree : FileTree) : Surroundings where
  read := tree.read
  templates path := (FileLoader.ofDirectory tree path Command.templateExtension).toLoader

/-- Runs a command line in a file tree: its outcome, and the files it leaves. -/
def FileTree.runCommand (tree : FileTree) (arguments : List String) : Outcome × FileTree :=
  let (command, options) := Command.parse arguments
  let outcome := command.run tree.surroundings options
  match outcome.written with
  | none => (outcome, tree)
  | some result =>
    match tree.write result.path result.text with
    | .ok tree => (outcome, tree)
    | .error fault => (.unwritable result.path fault, tree)

end Templating
