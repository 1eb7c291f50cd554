import Templating.Json
import Templating.Source.Delimiters
import Templating.Diagnostic.Basic
import Templating.File.Fault

/-! # Configuration

How templates are compiled, read from a JSON text. Every field may be left out. The fields stand in an
object by name, each at most once, or in a sequence by position.
-/

namespace Templating

/-- How templates are compiled. -/
structure Config where
  /-- The tag that stands in for a tag without a keyword. -/
  fallbackTag : Option String := none
  /-- The delimiters of templates. -/
  delimiters : Delimiters := {}
  /-- What the names of compiled modules start with. -/
  cacheNamespace : String := "stencil"
  /-- The global variables, in ascending order of their names. -/
  globals : List (String × Json) := []
  /-- The template that stands in for one that fails. -/
  errorTemplate : Option String := none
deriving Repr

/-- Why a configuration is refused. -/
inductive ConfigFault where
  /-- The file of the configuration cannot be read. -/
  | unreadable (path : String) (fault : FileFault)
  /-- The text is no JSON, or not of the right shape. -/
  | json
  /-- The delimiters cannot be used. -/
  | delimiters (fault : DelimiterFault)
  /-- The namespace is no identifier. -/
  | namespaceName (name : String)
  /-- A global variable has an empty name. -/
  | emptyGlobal
  /-- The fallback tag is empty. -/
  | emptyFallbackTag
deriving Repr, DecidableEq, BEq

namespace ConfigFault

/-- What a fault of the content of a configuration consists in. -/
def reason : ConfigFault → String
  | unreadable _ fault => fault.describe
  | json => "malformed"
  | delimiters fault => fault.message
  | namespaceName name => "cache_namespace `" ++ name ++ "` is not a valid identifier"
  | emptyGlobal => "global variable name `` is empty"
  | emptyFallbackTag => "fallback_tag must not be empty"

/-- The message of a fault. -/
def message : ConfigFault → String
  | unreadable path fault => "cannot read config file '" ++ path ++ "': " ++ fault.describe
  | json => "invalid config JSON"
  | fault => "invalid configuration: " ++ fault.reason

/-- The diagnostic of a fault. -/
def toDiagnostic (fault : ConfigFault) : Diagnostic where
  code := .invalidConfiguration
  message := fault.message

end ConfigFault

namespace Config

/-- Whether a text can be the name of a namespace. -/
def isNamespaceName (text : String) : Bool :=
  let isPart (c : Char) : Bool := c.isAlphanum || c == '_'
  match text.toList with
  | [] => false
  | first :: more => (first.isAlpha || first == '_') && more.all isPart

/-- What is wrong with the content of a configuration, if anything is. -/
def fault? (config : Config) : Option ConfigFault :=
  match config.delimiters.fault? with
  | some fault => some (.delimiters fault)
  | none =>
    if !isNamespaceName config.cacheNamespace then some (.namespaceName config.cacheNamespace)
    else if config.globals.any fun entry => entry.1.isEmpty then some .emptyGlobal
    else if config.fallbackTag == some "" then some .emptyFallbackTag
    else none

/-- Reads a text. -/
def readText? : Json → Option String
  | .string s => some s
  | _ => none

/-- Reads a text or nothing. -/
def readOptionalText? : Json → Option (Option String)
  | .null => some none
  | .string s => some (some s)
  | _ => none

/-- Reads a pair of delimiters. -/
def readPair? : Json → Option DelimiterPair
  | .array [.string opening, .string closing] => some ⟨opening, closing⟩
  | _ => none

/-- Reads a pair of delimiters or nothing. -/
def readOptionalPair? : Json → Option (Option DelimiterPair)
  | .null => some none
  | json => (readPair? json).map some

/-- Reads one character. -/
def readChar? : Json → Option Char
  | .string s =>
    match s.toList with
    | [c] => some c
    | _ => none
  | _ => none

/-- Reads variables. The last of several with one name counts. -/
def readVariables? : Json → Option (List (String × Json))
  | .object pairs => some (sortByKey pairs)
  | _ => none

/-- Reads one field into a structure. -/
abbrev FieldReader (α : Type) := α → Json → Option α

/-- Reads the fields of a structure, by name from an object and by position from a sequence. -/
def readFields? {α : Type} (fields : List (String × FieldReader α)) (start : α) : Json → Option α
  | .object pairs =>
    if (pairs.map Prod.fst).Nodup then
      pairs.foldlM (fun done pair => (fields.lookup pair.1).bind fun read => read done pair.2) start
    else none
  | .array items =>
    if items.length ≤ fields.length then
      (fields.zip items).foldlM (fun done pair => pair.1.2 done pair.2) start
    else none
  | _ => none

/-- The fields of delimiters. -/
def delimiterFields : List (String × FieldReader Delimiters) := [
  ("tag", fun d json => (readPair? json).map fun pair => { d with tag := pair }),
  ("expression", fun d json => (readPair? json).map fun pair => { d with expression := pair }),
  ("comment", fun d json => (readOptionalPair? json).map fun pair => { d with comment := pair }),
  ("trim", fun d json => (readChar? json).map fun c => { d with trim := c })]

/-- The fields of a configuration. -/
def configFields : List (String × FieldReader Config) := [
  ("fallback_tag", fun c json => (readOptionalText? json).map fun tag => { c with fallbackTag := tag }),
  ("delimiters", fun c json => (readFields? delimiterFields {} json).map fun d => { c with delimiters := d }),
  ("cache_namespace", fun c json => (readText? json).map fun name => { c with cacheNamespace := name }),
  ("global_variables", fun c json => (readVariables? json).map fun globals => { c with globals := globals }),
  ("error_template", fun c json => (readOptionalText? json).map fun name => { c with errorTemplate := name })]

/-- Reads a configuration. -/
def read (text : String) : Except ConfigFault Config :=
  match (Json.read? text).bind (readFields? configFields {}) with
  | none => .error .json
  | some config =>
    match config.fault? with
    | some fault => .error fault
    | none => .ok config

end Config

end Templating
