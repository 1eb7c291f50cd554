import Templating.Compile.Error
import Templating.Compiler.Loader
import Templating.Config
import Templating.Parse.Error
import Templating.Registry.Error
import Templating.Source.Region

/-! # Failures of compiling by name

Everything that can go wrong between the name of a template and its compiled text. What goes wrong in a
template is reported with the name of the template.
-/

namespace Templating

/-- Why a template cannot be compiled. -/
inductive TemplateError where
  /-- The source cannot be split into tokens. -/
  | lex (template : String) (e : Source.LexError)
  /-- The tokens are no template. -/
  | parse (template : String) (e : ParseError)
  /-- The tree cannot be compiled. -/
  | compile (template : String) (e : CompileError)
  /-- The extensions are in conflict. -/
  | registry (e : RegistryError)
  /-- The source cannot be had. -/
  | loader (e : LoaderError)
  /-- The configuration is refused. -/
  | config (fault : ConfigFault)

namespace TemplateError

/-- The message of an error. -/
def message : TemplateError → String
  | lex template e => template ++ ": " ++ e.message
  | parse template e => template ++ ": " ++ e.message
  | compile template e => template ++ ": " ++ e.message
  | registry e => e.message
  | loader e => e.message
  | config fault => fault.message

/-- The name of the template that an error is about. -/
def template? : TemplateError → Option String
  | lex template _ => some template
  | parse template _ => some template
  | compile template _ => some template
  | registry _ => none
  | loader e => some e.name
  | config _ => none

/-- The diagnostic of an error. -/
def toDiagnostic : TemplateError → Diagnostic
  | lex template e => e.toDiagnostic.inTemplate template
  | parse template e => e.toDiagnostic.inTemplate template
  | compile template e => e.toDiagnostic.inTemplate template
  | registry e => e.toDiagnostic
  | loader e => e.toDiagnostic
  | config fault => fault.toDiagnostic

/-- The code of an error. -/
def code (e : TemplateError) : DiagnosticCode :=
  e.toDiagnostic.code

end TemplateError

end Templating
