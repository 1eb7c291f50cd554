import Templating.Compiler.Basic
import Templating.Render.Environment

/-! # Compiled environments

The environment that holds the templates of a compiler, ready to render. It has what the text of a bundle
registers.
-/

namespace Templating

/-- Registers the templates of a compiled source. -/
def Environment.addModule (env : Environment) (compiled : Code.Module) : Environment :=
  (compiled.main :: compiled.nested).foldl (fun env t => env.addTemplate t.name t.body) env

namespace Compiler

/-- The compiled source of a template. -/
def fetchModule (c : Compiler) (name : String) : Except TemplateError Code.Module :=
  match c.loader.fetch name with
  | .ok source => c.compileModule name source
  | .error e => .error (.loader e)

/-- Adds to an environment all templates of a compiler in ascending order, the global variables and the
error template. -/
def register (c : Compiler) (env : Environment) : Except TemplateError Environment :=
  match c.loader.names with
  | .error e => .error (.loader e)
  | .ok names => do
    let modules ← names.mapM c.fetchModule
    let env := modules.foldl Environment.addModule env
    let env := c.config.globals.foldl (fun env entry => env.setGlobal entry.1 entry.2.toValue) env
    return { env with errorTemplate := c.config.errorTemplate }

end Compiler

end Templating
