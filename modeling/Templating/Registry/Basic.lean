import Templating.Registry.Operator
import Templating.Registry.Tag
import Templating.Registry.Function
import Templating.Source.Vocabulary

/-! # Registries

Everything a template may use, contributed by extensions. A conflict stops an extension; what it
contributed before stays.
-/

namespace Templating

/-- A bundle of contributions. -/
structure Extension where
  /-- The name of the bundle. -/
  name : String
  /-- Its operators. -/
  operators : List OperatorDefinition := []
  /-- Its tags. -/
  tags : List TagDefinition := []
  /-- Its functions. -/
  functions : List TemplateFunction := []
deriving Repr

/-- Everything a template may use. -/
structure Registries where
  /-- The operators. -/
  operators : OperatorRegistry := {}
  /-- The tags. -/
  tags : TagRegistry := {}
  /-- The functions. -/
  functions : FunctionRegistry := {}
deriving Repr, Inhabited

namespace Registries

/-- Registers operators until a conflict. -/
def addOperators (registries : Registries) :
    List OperatorDefinition → Registries × Option RegistryError
  | [] => (registries, none)
  | definition :: definitions =>
    match registries.operators.register definition with
    | (operators, none) => addOperators { registries with operators := operators } definitions
    | (operators, some e) => ({ registries with operators := operators }, some e)

/-- Registers tags until a conflict. -/
def addTags (registries : Registries) : List TagDefinition → Registries × Option RegistryError
  | [] => (registries, none)
  | tag :: tags =>
    match registries.tags.register tag with
    | .ok registered => addTags { registries with tags := registered } tags
    | .error e => (registries, some e)

/-- Registers functions until a conflict. -/
def addFunctions (registries : Registries) : List TemplateFunction → Registries × Option RegistryError
  | [] => (registries, none)
  | function :: functions =>
    match registries.functions.register function with
    | .ok registered => addFunctions { registries with functions := registered } functions
    | .error e => (registries, some e)

/-- Registers what an extension contributes: operators, then tags, then functions. -/
def register (registries : Registries) (extension : Extension) : Registries × Option RegistryError :=
  match registries.addOperators extension.operators with
  | (registries, some e) => (registries, some e)
  | (registries, none) =>
    match registries.addTags extension.tags with
    | (registries, some e) => (registries, some e)
    | (registries, none) => registries.addFunctions extension.functions

/-- Registers extensions in order, unless there is a conflict. -/
def build (extensions : List Extension) : Except RegistryError Registries :=
  extensions.foldlM
    (fun registries extension =>
      match registries.register extension with
      | (registries, none) => .ok registries
      | (_, some e) => .error e)
    {}

/-- What the tokenizer has to know to read templates that use the registries. -/
def vocabulary (registries : Registries) (delimiters : Delimiters) : Vocabulary :=
  ((({ delimiters := delimiters } : Vocabulary).addSymbols registries.operators.symbols).addWords
    registries.operators.words).addKeywords registries.tags.keywords

end Registries

end Templating
