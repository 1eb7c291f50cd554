import Templating.Number.Layout

/-! # Values

The values that templates compute with. A map keeps its entries in ascending order of their keys, so
equal maps are the same list of entries.
-/

namespace Templating

/-- The kind of a value, as error messages name it. -/
inductive Kind where
  /-- Nothing. -/
  | null
  /-- A truth value. -/
  | bool
  /-- A whole number. -/
  | int
  /-- A floating-point number. -/
  | float
  /-- A text. -/
  | string
  /-- A sequence of values. -/
  | list
  /-- Values under keys. -/
  | map
deriving Repr, DecidableEq, BEq

/-- The name of a kind. -/
def Kind.name : Kind → String
  | null => "null"
  | bool => "bool"
  | int => "int"
  | float => "float"
  | string => "string"
  | list => "list"
  | map => "map"

/-- A value of a template. -/
inductive Value where
  /-- Nothing, and what every missing thing is. -/
  | null
  /-- A truth value. -/
  | bool (b : Bool)
  /-- A whole number of 64 bits. -/
  | int (n : Int64)
  /-- A floating-point number. -/
  | float (x : Float)
  /-- A text. -/
  | string (s : String)
  /-- A sequence of values. -/
  | list (items : List Value)
  /-- Values under keys, in ascending order of the keys. -/
  | map (entries : List (String × Value))
deriving Repr, Inhabited

/-- Places a pair into a list of pairs with ascending keys, in place of one with the same key. -/
def insertByKey {α : Type} (key : String) (value : α) : List (String × α) → List (String × α)
  | [] => [(key, value)]
  | entry :: later =>
    if key = entry.1 then (key, value) :: later
    else if key < entry.1 then (key, value) :: entry :: later
    else entry :: insertByKey key value later

/-- The pairs in ascending order of their keys. The last of several pairs with one key counts. -/
def sortByKey {α : Type} (pairs : List (String × α)) : List (String × α) :=
  pairs.foldl (fun sorted pair => insertByKey pair.1 pair.2 sorted) []

namespace Value

/-- The kind of a value. -/
def kind : Value → Kind
  | null => .null
  | bool _ => .bool
  | int _ => .int
  | float _ => .float
  | string _ => .string
  | list _ => .list
  | map _ => .map

/-- A map with the given pairs. -/
def ofPairs (pairs : List (String × Value)) : Value :=
  map (sortByKey pairs)

/-- A count as a whole number. -/
def ofNat (n : Nat) : Value :=
  int (Number.clamp n)

/-- A text of one character. -/
def ofChar (c : Char) : Value :=
  string (String.singleton c)

/-- Nothing, false, zero and empty containers do not hold; all else does. -/
def truthy : Value → Bool
  | null => false
  | bool b => b
  | int n => n != 0
  | float x => x != 0.0
  | string s => !s.isEmpty
  | list items => !items.isEmpty
  | map entries => !entries.isEmpty

/-- Nothing and empty containers are empty; zero and false are not. -/
def isEmpty : Value → Bool
  | null => true
  | string s => s.isEmpty
  | list items => items.isEmpty
  | map entries => entries.isEmpty
  | bool _ | int _ | float _ => false

/-- Whether a value is nothing. -/
def isNull : Value → Bool
  | null => true
  | _ => false

/-- A whole number, also one held as a floating-point number. One beyond 64 bits gives the nearest number
of 64 bits. -/
def toInt? : Value → Option Int64
  | int n => some n
  | float x => (Number.Binary64.ofFloat x).whole?.map Number.clamp
  | _ => none

/-- The nearest floating-point number. -/
def toFloat? : Value → Option Float
  | int n => some (Number.floatOfWord n)
  | float x => some x
  | _ => none

/-- The text of a text value. -/
def toText? : Value → Option String
  | string s => some s
  | _ => none

mutual

/-- The text a value is printed as. -/
def display : Value → String
  | null => ""
  | bool b => if b then "true" else "false"
  | int n => toString n.toInt
  | float x => Number.Layout.plain.write x
  | string s => s
  | list items => displayItems items
  | map entries => "\x7b" ++ displayEntries entries ++ "\x7d"

/-- The items of a list, separated by commas. -/
def displayItems : List Value → String
  | [] => ""
  | [item] => display item
  | item :: next :: rest => display item ++ ", " ++ displayItems (next :: rest)

/-- The entries of a map, separated by commas. -/
def displayEntries : List (String × Value) → String
  | [] => ""
  | [(key, value)] => key ++ ": " ++ display value
  | (key, value) :: next :: rest =>
    key ++ ": " ++ display value ++ ", " ++ displayEntries (next :: rest)

end

mutual

/-- Whether two values have the same kind and content. A floating-point number that is not a number
differs from itself, and the two zeros are the same. -/
def same : Value → Value → Bool
  | null, null => true
  | bool a, bool b => a == b
  | int a, int b => a == b
  | float a, float b => a == b
  | string a, string b => a == b
  | list a, list b => sameItems a b
  | map a, map b => sameEntries a b
  | _, _ => false

/-- Whether two lists have the same items. -/
def sameItems : List Value → List Value → Bool
  | [], [] => true
  | a :: as, b :: bs => same a b && sameItems as bs
  | _, _ => false

/-- Whether two maps have the same entries. -/
def sameEntries : List (String × Value) → List (String × Value) → Bool
  | [], [] => true
  | (k, a) :: as, (l, b) :: bs => k == l && same a b && sameEntries as bs
  | _, _ => false

end

end Value

end Templating
