import Templating.Compiler.Environment
import Templating.Site.Templates
import Templating.Text.Casing
import Templating.Text.Letter

/-! # The sample site

The templates of the sample site, compiled and ready to render. The functions of its host take the text of
their first argument, which is empty if there is none.
-/

namespace Templating.Site

/-- A text in lower case with hyphens between its words. -/
def slugify : HostFunction := fun args =>
  let words := Text.wordsBetween (fun c => !Text.isLetterOrNumber c) (Text.lower (argument args 0).display)
  .ok (.string (String.intercalate "-" words))

/-- A greeting for a name. -/
def greeting : HostFunction := fun args =>
  .ok (.string ("Hi, " ++ (argument args 0).display))

/-- A text in upper case with an exclamation mark. -/
def shout : HostFunction := fun args =>
  .ok (.string (Text.upper (argument args 0).display ++ "!"))

/-- The functions that the templates call beside those that every template has. -/
def extension : Extension where
  name := "site"
  functions := [
    { name := "slugify", invocation := .simple "crate::host::slugify" },
    { name := "greeting", invocation := .callback "greeting" }]

/-- How the templates are compiled. -/
def config : Config where
  globals := [("site_name", .string "Stencil")]
  errorTemplate := some "error"

/-- The host functions under the names that compiled templates call them by. -/
def host : Environment :=
  let env : Environment := {}
  let env := { env with paths := ("crate::host::slugify", slugify) :: env.paths }
  (env.bindCallback "greeting" greeting).addHelper "shout" shout

/-- The site with all its templates. -/
def environment : Except TemplateError Environment := do
  let c ← Compiler.build config (.ofList templates) [extension]
  c.register host

end Templating.Site
