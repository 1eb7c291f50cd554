import Templating.Code.Basic
import Templating.Render.Scope
import Templating.Render.Output
import Templating.Render.Loop
import Templating.Value.Operation
import Templating.Value.Functions

/-! # The environment of running templates

Everything that running templates can reach: the other templates, the extensions, callbacks and helpers
of the host, its engine for patterns, and the global variables.
-/

namespace Templating

/-- A function of the host. -/
abbrev HostFunction := List Value → Except Failure Value

/-- An object of the host with named methods. -/
structure HostExtension where
  /-- The name templates know it by. -/
  name : String
  /-- The names of its methods. -/
  methods : List String
  /-- Calls a method by its name. -/
  call : String → HostFunction

/-- The extension that every environment has. -/
def HostExtension.core : HostExtension where
  name := "core"
  methods := CoreMethod.all.map CoreMethod.name
  call := CoreMethod.callNamed

/-- What running templates can reach. -/
structure Environment where
  /-- The templates by name. -/
  templates : List (String × List Code.Stmt) := []
  /-- The extensions by name. -/
  extensions : List (String × HostExtension) := [("core", .core)]
  /-- The callbacks by the names they are bound to. -/
  callbacks : List (String × HostFunction) := []
  /-- The helpers by name. -/
  helpers : List (String × HostFunction) := []
  /-- The functions that compiled templates name by path. -/
  paths : List (String × HostFunction) :=
    Builtin.all.map fun f => ("functions::" ++ f.name, f.call)
  /-- The variables of every template. -/
  globals : Scope := []
  /-- The template that stands in for one that fails. -/
  errorTemplate : Option String := none
  /-- The engine that searches texts for patterns. -/
  patterns : PatternEngine := .standard

namespace Environment

/-- Registers a template. -/
def addTemplate (env : Environment) (name : String) (body : List Code.Stmt) : Environment :=
  { env with templates := insertByKey name body env.templates }

/-- Registers an extension. -/
def addExtension (env : Environment) (extension : HostExtension) : Environment :=
  { env with extensions := insertByKey extension.name extension env.extensions }

/-- Binds a callback. -/
def bindCallback (env : Environment) (binding : String) (f : HostFunction) : Environment :=
  { env with callbacks := insertByKey binding f env.callbacks }

/-- Registers a helper. -/
def addHelper (env : Environment) (name : String) (f : HostFunction) : Environment :=
  { env with helpers := insertByKey name f env.helpers }

/-- Gives a global variable a value. -/
def setGlobal (env : Environment) (name : String) (value : Value) : Environment :=
  { env with globals := env.globals.set name value }

/-- Whether a template has the name. -/
def hasTemplate (env : Environment) (name : String) : Bool :=
  (env.templates.lookup name).isSome

/-- The template with a name. -/
def template (env : Environment) (name : String) : Except Failure (List Code.Stmt) :=
  match env.templates.lookup name with
  | some body => .ok body
  | none => .error (.templateNotFound name)

/-- The extension with a name. -/
def extension (env : Environment) (name : String) : Except Failure HostExtension :=
  match env.extensions.lookup name with
  | some extension => .ok extension
  | none => .error (.unknownExtension name)

/-- Calls what is bound to a name. -/
def invokeCallback (env : Environment) (binding : String) (args : List Value) : Except Failure Value :=
  match env.callbacks.lookup binding with
  | some f => f args
  | none => .error (.unboundCallback binding)

/-- Calls a helper. -/
def callHelper (env : Environment) (name : String) (args : List Value) : Except Failure Value :=
  match env.helpers.lookup name with
  | some f => f args
  | none => .error (.unknownFunction name)

/-- Calls a function by its path. -/
def callPath (env : Environment) (path : String) (args : List Value) : Except Failure Value :=
  match env.paths.lookup path with
  | some f => f args
  | none => .error (.unknownFunction path)

/-- The extension with the smallest name among those with a method. Extensions are kept in ascending
order of their names. -/
def methodOwner? (env : Environment) (method : String) : Option HostExtension :=
  (env.extensions.find? fun entry => entry.2.methods.contains method).map (·.2)

/-- Calls a function with the receiver as its first argument: a helper, else a function that every
template has, else a method of an extension. -/
def callMethod (env : Environment) (receiver : Value) (name : String) (args : List Value) :
    Except Failure Value :=
  match env.helpers.lookup name with
  | some f => f (receiver :: args)
  | none =>
    match Builtin.find? name with
    | some f => f.call (receiver :: args)
    | none =>
      match env.methodOwner? name with
      | some extension => extension.call name (receiver :: args)
      | none => .error (.unknownFunction name)

end Environment

end Templating
