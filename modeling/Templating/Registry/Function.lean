import Templating.Registry.Error

/-! # Functions

The functions that templates know by name, and how each of them is called.
-/

namespace Templating

/-- How a function is called. -/
inductive Invocation where
  /-- By a path. -/
  | simple (target : String)
  /-- As a method of a named extension. -/
  | method (extension method : String)
  /-- Through a name that the host bound. -/
  | callback (binding : String)
deriving Repr, DecidableEq, BEq

/-- A function that templates know by name. -/
structure TemplateFunction where
  /-- Its name. -/
  name : String
  /-- How it is called. -/
  invocation : Invocation
  /-- Whether its result may be written as it is. -/
  isSafe : Bool := false
deriving Repr, DecidableEq, BEq

/-- The functions that templates know. A function's number is its place. -/
structure FunctionRegistry where
  /-- The functions. -/
  functions : List TemplateFunction := []
deriving Repr, DecidableEq, BEq, Inhabited

namespace FunctionRegistry

/-- The function with a number. -/
def get? (registry : FunctionRegistry) (id : Nat) : Option TemplateFunction :=
  registry.functions[id]?

/-- The number of the function with a name. -/
def lookup? (registry : FunctionRegistry) (name : String) : Option Nat :=
  registry.functions.findIdx? fun function => function.name == name

/-- Registers a function. -/
def register (registry : FunctionRegistry) (function : TemplateFunction) :
    Except RegistryError FunctionRegistry :=
  if (registry.lookup? function.name).isSome then .error (.duplicateFunction function.name)
  else .ok ⟨registry.functions ++ [function]⟩

end FunctionRegistry

end Templating
