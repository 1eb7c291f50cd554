import Templating.Diagnostic.Basic

/-! # Conflicts between extensions

Why something cannot be registered.
-/

namespace Templating

/-- Where an operator stands. -/
inductive Fixity where
  /-- In front of its operand. -/
  | unary
  /-- Behind an operand. -/
  | binary
deriving Repr, DecidableEq, BEq

/-- The name of a place. -/
def Fixity.name : Fixity → String
  | unary => "unary"
  | binary => "binary"

/-- Why something cannot be registered. -/
inductive RegistryError where
  /-- An operator has the alias already. -/
  | duplicateAlias (spelling : String) (fixity : Fixity) (owner : String)
  /-- The alias has a word that is never an operator. -/
  | reservedWord (spelling word : String)
  /-- A tag has the keyword already. -/
  | duplicateTag (keyword : String)
  /-- A function has the name already. -/
  | duplicateFunction (name : String)
  /-- The fallback tag is not registered. -/
  | unknownFallbackTag (keyword : String)
deriving Repr, DecidableEq, BEq

namespace RegistryError

/-- The code of an error. -/
def code : RegistryError → DiagnosticCode
  | duplicateAlias _ _ _ => .duplicateAlias
  | reservedWord _ _ => .reservedWord
  | duplicateTag _ => .duplicateTag
  | duplicateFunction _ => .duplicateFunction
  | unknownFallbackTag _ => .unknownFallbackTag

/-- The message of an error. -/
def message : RegistryError → String
  | duplicateAlias spelling fixity owner =>
    fixity.name ++ " operator alias `" ++ spelling ++ "` is already registered by `" ++ owner ++ "`"
  | reservedWord spelling word =>
    "operator alias `" ++ spelling ++ "` uses the reserved word `" ++ word ++ "`"
  | duplicateTag keyword => "tag `" ++ keyword ++ "` is already registered"
  | duplicateFunction name => "function `" ++ name ++ "` is already registered"
  | unknownFallbackTag keyword => "fallback tag `" ++ keyword ++ "` is not registered"

/-- The diagnostic of an error. -/
def toDiagnostic (e : RegistryError) : Diagnostic where
  code := e.code
  message := e.message

end RegistryError

end Templating
