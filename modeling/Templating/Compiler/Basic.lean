import Templating.Compile.Writer
import Templating.Compiler.Error
import Templating.Parse.Allocation
import Templating.Pass.Standard
import Templating.Registry.Core
import Templating.Source.Tokenizer

/-! # Compilers

A compiler knows everything that compiling templates by name needs, and remembers the texts of templates
it has compiled.
-/

namespace Templating

/-- What compiling templates by name needs. -/
structure Compiler where
  /-- How templates are compiled. -/
  config : Config
  /-- What templates may use. -/
  registries : Registries
  /-- What the tokenizer has to know. -/
  vocabulary : Vocabulary
  /-- The passes that annotate trees. -/
  optimizer : Optimizer := .standard
  /-- Where sources come from. -/
  loader : Loader
  /-- The texts of compiled templates. -/
  cache : List (String × String) := []

namespace Compiler

/-- A compiler with the core extension and further ones. -/
def build (config : Config) (loader : Loader) (extensions : List Extension) :
    Except TemplateError Compiler :=
  match config.fault? with
  | some fault => .error (.config fault)
  | none =>
    match Registries.build (Core.extension :: extensions) with
    | .error e => .error (.registry e)
    | .ok registries =>
      match config.fallbackTag.filter fun tag => (registries.tags.lookup? tag).isNone with
      | some tag => .error (.registry (.unknownFallbackTag tag))
      | none =>
        .ok {
          config := config
          registries := registries
          vocabulary := registries.vocabulary config.delimiters
          loader := loader }

/-- The tokens of a source. -/
def tokenize (c : Compiler) (name source : String) : Except TemplateError (List Token) :=
  match Source.tokenize c.vocabulary source with
  | .ok tokens => .ok tokens
  | .error e => .error (.lex name e)

/-- The nodes of a source, not annotated by passes yet. -/
def parse (c : Compiler) (name source : String) : Except TemplateError Arena := do
  let tokens ← c.tokenize name source
  match Parse.arena { registries := c.registries, fallbackTag := c.config.fallbackTag } tokens with
  | .ok arena => .ok arena
  | .error e => .error (.parse name e)

/-- Annotates a tree. -/
def optimize (c : Compiler) (arena : Arena) : Arena :=
  c.optimizer.run c.registries arena

/-- Compiles a source to code that can run. -/
def compileModule (c : Compiler) (name source : String) : Except TemplateError Code.Module := do
  let arena ← c.parse name source
  match Compile.template { registries := c.registries, mainName := name } (c.optimize arena).toTree? with
  | .ok compiled => .ok compiled
  | .error e => .error (.compile name e)

/-- Compiles a source to text, line by line. -/
def compileSource (c : Compiler) (name source : String) : Except TemplateError String := do
  let arena ← c.parse name source
  let setting : Compile.Setting := { registries := c.registries, mainName := name }
  match Compile.moduleText setting c.config.cacheNamespace (c.optimize arena).toTree? with
  | .ok text => .ok text
  | .error e => .error (.compile name e)

/-- The text of a template, compiled from its source. -/
def freshText (c : Compiler) (name : String) : Except TemplateError String :=
  match c.loader.fetch name with
  | .ok source => c.compileSource name source
  | .error e => .error (.loader e)

/-- Compiles a template, or takes its text from memory. A text that was compiled is remembered. -/
def compileTemplate (c : Compiler) (name : String) : Except TemplateError String × Compiler :=
  match c.cache.lookup name with
  | some text => (.ok text, c)
  | none =>
    match c.freshText name with
    | .ok text => (.ok text, { c with cache := (name, text) :: c.cache })
    | .error e => (.error e, c)

/-- Compiles templates in order, up to the first that fails. -/
def compileAll (c : Compiler) : List String → Except TemplateError (List (String × String)) × Compiler
  | [] => (.ok [], c)
  | name :: names =>
    match c.compileTemplate name with
    | (.error e, c) => (.error e, c)
    | (.ok text, c) =>
      match c.compileAll names with
      | (.error e, c) => (.error e, c)
      | (.ok texts, c) => (.ok ((name, text) :: texts), c)

/-- The module of a template. -/
def moduleName (c : Compiler) (name : String) : String :=
  Code.moduleName c.config.cacheNamespace name

/-- The first name whose module is that of an earlier name, as an error; `earlier` are the names before
with their modules. -/
def collision? (c : Compiler) (earlier : List (String × String)) : List String → Option TemplateError
  | [] => none
  | name :: names =>
    let compiled := c.moduleName name
    match earlier.lookup compiled with
    | some other => some (.compile name ⟨.collision name other compiled, 0⟩)
    | none => c.collision? ((compiled, name) :: earlier) names

/-- The function of a bundle that registers its templates, the global variables and the error
template. -/
def registerText (c : Compiler) (names : List String) : String :=
  "pub fn register(env: &mut ::stencil_runtime::Environment) \x7b\n"
    ++ String.join (names.map fun name =>
      "    env.register_templates(" ++ c.moduleName name ++ "::templates());\n")
    ++ String.join (c.config.globals.map fun entry =>
      "    env.set_global(" ++ Text.quote entry.1 ++ ", "
        ++ Code.jsonLiteral "::stencil_runtime::Value" entry.2 ++ ");\n")
    ++ (match c.config.errorTemplate with
      | some name => "    env.set_error_template(Some(" ++ Text.quote name ++ ".to_string()));\n"
      | none => "    env.set_error_template(None);\n")
    ++ "\x7d\n"

/-- The text of a bundle of compiled templates. -/
def bundleText (c : Compiler) (compiled : List (String × String)) : String :=
  "// Generated by stencilc. Do not edit.\n\n"
    ++ String.join (compiled.map fun entry => entry.2 ++ "\n")
    ++ c.registerText (compiled.map Prod.fst)

/-- Compiles templates to one text, each name once and in ascending order. Names with one module are
noticed before anything is compiled. -/
def compileBundle (c : Compiler) (names : List String) : Except TemplateError String × Compiler :=
  let names := dropRepeated (sortNames names)
  match c.collision? [] names with
  | some e => (.error e, c)
  | none =>
    match c.compileAll names with
    | (.error e, c) => (.error e, c)
    | (.ok compiled, c) => (.ok (c.bundleText compiled), c)

/-- Adds a pass. What was compiled without it is forgotten. -/
def addPass (c : Compiler) (pass : Pass) : Compiler :=
  { c with optimizer := c.optimizer.add pass, cache := [] }

/-- Forgets what was compiled. -/
def clearCache (c : Compiler) : Compiler :=
  { c with cache := [] }

end Compiler

end Templating
