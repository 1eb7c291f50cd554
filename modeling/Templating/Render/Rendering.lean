import Templating.Code.Run

/-! # Rendering

Rendering a template of an environment by name. Templates include each other up to a fixed depth. With an
error template, a failed rendering is replaced by the rendering of that template with the message.
-/

namespace Templating.Environment

/-- How deeply templates may include each other. -/
def includeLimit : Nat := 64

/-- Runs the body of a template on variables and output that it shares with its caller. -/
def runBody (env : Environment) (includer : Code.Includer) (body : List Code.Stmt) (context : Context)
    (output : Output) : Except Failure (Context × Output) := do
  let m ← Code.execAll env includer { context := context, output := output } body
  return (m.context, m.output)

/-- Includes templates up to `remaining` levels deep. A template that does not exist is noticed before the
depth. -/
def includer (env : Environment) : Nat → Code.Includer
  | 0 => fun name _ _ => do
    let _ ← env.template name.display
    .error (.includeDepth name.display)
  | remaining + 1 => fun name context output => do
    let body ← env.template name.display
    env.runBody (env.includer remaining) body context output

/-- The variables a rendering starts with: the globals, and the given variables in a scope of their own. -/
def startContext (env : Environment) (given : List (String × Value)) : Context :=
  given.foldl (fun context pair => context.set pair.1 pair.2) (Context.ofGlobals env.globals).pushScope

/-- Renders a template, without an error template. -/
def renderTemplate (env : Environment) (name : String) (given : List (String × Value)) :
    Except Failure String := do
  let body ← env.template name
  let (_, output) ← env.runBody (env.includer includeLimit) body (env.startContext given) {}
  return output.text

/-- Renders a template. -/
def render (env : Environment) (name : String) (given : List (String × Value)) :
    Except Failure String :=
  match env.renderTemplate name given with
  | .ok text => .ok text
  | .error failure =>
    match env.errorTemplate with
    | none => .error failure
    | some fallback =>
      if fallback = name then .error failure
      else env.renderTemplate fallback [("error", .string failure.message)]

end Templating.Environment
