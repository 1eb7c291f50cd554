import Templating.Json
import Templating.Text.Quoted

/-! # Values as code

The expressions that build values. `path` is where the type of values is found.
-/

namespace Templating.Code

/-- Parts between commas. -/
def commaSeparated (parts : List String) : String :=
  String.intercalate ", " parts

/-- A truth value as code. -/
def boolLiteral (b : Bool) : String :=
  if b then "true" else "false"

/-- A pair of a key and the code of its value as code. -/
def entryLiteral (entry : String × String) : String :=
  "(" ++ Text.quote entry.1 ++ ".to_string(), " ++ entry.2 ++ ")"

/-- Entries as code. -/
def mapLiteral (path : String) (entries : List (String × String)) : String :=
  path ++ "::Map(::std::collections::BTreeMap::from([" ++ commaSeparated (entries.map entryLiteral) ++ "]))"

/-- Items as code. -/
def listLiteral (path : String) (items : List String) : String :=
  path ++ "::List(vec![" ++ commaSeparated items ++ "])"

mutual

/-- A value as code. -/
def valueLiteral (path : String) : Value → String
  | .null => path ++ "::Null"
  | .bool b => path ++ "::Bool(" ++ boolLiteral b ++ ")"
  | .int n => path ++ "::Int(" ++ toString n.toInt ++ ")"
  | .float x => path ++ "::Float(" ++ Number.Layout.literal.write x ++ ")"
  | .string s => path ++ "::from(" ++ Text.quote s ++ ")"
  | .list items => listLiteral path (valueLiterals path items)
  | .map entries => mapLiteral path (entryLiterals path entries)

/-- Values as code. -/
def valueLiterals (path : String) : List Value → List String
  | [] => []
  | item :: items => valueLiteral path item :: valueLiterals path items

/-- Values under keys as code. -/
def entryLiterals (path : String) : List (String × Value) → List (String × String)
  | [] => []
  | (key, item) :: entries => (key, valueLiteral path item) :: entryLiterals path entries

end

mutual

/-- A JSON text as code. Of several pairs with one key the last counts, and pairs stand in the order of
their keys. -/
def jsonLiteral (path : String) : Json → String
  | .null => path ++ "::Null"
  | .bool b => path ++ "::Bool(" ++ boolLiteral b ++ ")"
  | .number n =>
    match n.toInt? with
    | some i => path ++ "::Int(" ++ toString i.toInt ++ ")"
    | none => path ++ "::Float(" ++ Number.Layout.literal.write n.toFloat ++ ")"
  | .string s => path ++ "::from(" ++ Text.quote s ++ ")"
  | .array items => listLiteral path (jsonLiterals path items)
  | .object pairs => mapLiteral path (sortByKey (pairLiterals path pairs))

/-- The items of a sequence as code. -/
def jsonLiterals (path : String) : List Json → List String
  | [] => []
  | item :: items => jsonLiteral path item :: jsonLiterals path items

/-- The pairs of an object as code. -/
def pairLiterals (path : String) : List (String × Json) → List (String × String)
  | [] => []
  | (key, item) :: pairs => (key, jsonLiteral path item) :: pairLiterals path pairs

end

end Templating.Code
