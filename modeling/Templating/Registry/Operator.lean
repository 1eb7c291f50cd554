import Templating.Registry.AliasTrie
import Templating.Registry.Error
import Templating.Text.Blank
import Templating.Text.Letter

/-! # Operators

The operators that expressions may use. An operator has one or more aliases of one or more words. The
operators in front of an operand and those behind one are looked up apart, so both kinds can share an
alias.
-/

namespace Templating

/-- How operators of one precedence in a row are grouped. -/
inductive Associativity where
  /-- From the left. -/
  | left
  /-- From the right. -/
  | right
  /-- Not at all: such a row is refused. -/
  | none
deriving Repr, DecidableEq, BEq

/-- The name of an associativity. -/
def Associativity.name : Associativity → String
  | left => "Left"
  | right => "Right"
  | none => "None"

/-- Which operands an operator has. -/
inductive Arity where
  /-- One in front and one behind. -/
  | binary
  /-- One behind. -/
  | unaryPrefix
  /-- One in front, and perhaps one behind. -/
  | test (takesArgument : Bool)
  /-- One in front, one behind, and one behind a colon. -/
  | ternary
deriving Repr, DecidableEq, BEq

namespace Arity

/-- The name of an arity. -/
def name : Arity → String
  | binary => "Binary"
  | unaryPrefix => "UnaryPrefix"
  | test takesArgument =>
    "Test \x7b takes_argument: " ++ (if takesArgument then "true" else "false") ++ " \x7d"
  | ternary => "Ternary"

/-- Where an operator with these operands stands. -/
def fixity : Arity → Fixity
  | unaryPrefix => .unary
  | _ => .binary

end Arity

/-- What an operator does with its operands. -/
inductive Strategy where
  /-- An operation on the left and the right operand. -/
  | binary (operation : String)
  /-- An operation on the right operand. -/
  | unary (operation : String)
  /-- An operation on the left operand. -/
  | test (operation : String)
  /-- Whether the left operand has a value; of a variable, whether it is bound. -/
  | isSet
  /-- Whether both operands hold. -/
  | both
  /-- Whether one of the operands holds. -/
  | either
  /-- Whether the right operand does not hold. -/
  | negation
  /-- The middle or the right operand, as the left one holds or not. -/
  | conditional
  /-- Whether the result of another strategy does not hold. -/
  | negate (positive : Strategy)
deriving Repr, DecidableEq, BEq

/-- An operator. -/
structure OperatorDefinition where
  /-- Its name in messages. -/
  name : String
  /-- How it is written. -/
  aliases : List String
  /-- How tightly it binds. -/
  precedence : UInt8
  /-- How a row of it is grouped. -/
  associativity : Associativity
  /-- Which operands it has. -/
  arity : Arity
  /-- What it does. -/
  strategy : Strategy
deriving Repr, DecidableEq, BEq

/-- The operator with the opposite result, under another name and other aliases. -/
def OperatorDefinition.negated (definition : OperatorDefinition) (name : String) (aliases : List String) :
    OperatorDefinition :=
  { definition with name := name, aliases := aliases, strategy := .negate definition.strategy }

/-- Whether a text starts like a word, and not like a symbol. -/
def isWordLike (text : String) : Bool :=
  match text.toList with
  | [] => false
  | c :: _ => Text.isLetter c || c == '_'

/-- The next higher precedence; there is none above the highest. -/
def tighter (precedence : UInt8) : UInt8 :=
  if precedence = 255 then 255 else precedence + 1

/-- How tightly an operator behind this one must bind to belong to its right operand. -/
def OperatorDefinition.rightLimit (definition : OperatorDefinition) : UInt8 :=
  match definition.associativity with
  | .right => definition.precedence
  | _ => tighter definition.precedence

/-- The words that are always literals and so never part of an alias. -/
def reservedWords : List String :=
  ["true", "false", "null"]

/-- The operators that expressions may use. An operator's number is its place. -/
structure OperatorRegistry where
  /-- The operators. -/
  definitions : List OperatorDefinition := []
  /-- The aliases of the operators in front of an operand. -/
  unary : AliasTrie := .empty
  /-- The aliases of the operators behind an operand. -/
  binary : AliasTrie := .empty
deriving Repr, Inhabited

namespace OperatorRegistry

/-- The operator with a number. -/
def get? (registry : OperatorRegistry) (id : Nat) : Option OperatorDefinition :=
  registry.definitions[id]?

/-- The aliases of the operators at a place. -/
def table (registry : OperatorRegistry) : Fixity → AliasTrie
  | .unary => registry.unary
  | .binary => registry.binary

/-- Replaces the aliases of the operators at a place. -/
def withTable (registry : OperatorRegistry) (fixity : Fixity) (trie : AliasTrie) : OperatorRegistry :=
  match fixity with
  | .unary => { registry with unary := trie }
  | .binary => { registry with binary := trie }

/-- The name of the operator that owns an alias. An operator that is being registered is not among the
others yet. -/
def ownerName (registry : OperatorRegistry) (definition : OperatorDefinition) (id : Nat) : String :=
  match registry.get? id with
  | some owner => owner.name
  | none => definition.name

/-- Adds the aliases of a definition one by one. What was added before a conflict stays. -/
def addAliases (registry : OperatorRegistry) (definition : OperatorDefinition) (id : Nat) :
    List String → OperatorRegistry × Option RegistryError
  | [] => (registry, none)
  | spelling :: aliases =>
    let words := Text.words spelling
    match words.find? fun word => reservedWords.contains word with
    | some word => (registry, some (.reservedWord spelling word))
    | none =>
      let fixity := definition.arity.fixity
      match (registry.table fixity).insert words id with
      | .error owner =>
        (registry, some (.duplicateAlias spelling fixity (registry.ownerName definition owner)))
      | .ok trie => addAliases (registry.withTable fixity trie) definition id aliases

/-- Registers an operator. An operator with a conflict is left out, but those of its aliases stay that were
added before the conflict. -/
def register (registry : OperatorRegistry) (definition : OperatorDefinition) :
    OperatorRegistry × Option RegistryError :=
  match registry.addAliases definition registry.definitions.length definition.aliases with
  | (registry, none) => ({ registry with definitions := registry.definitions ++ [definition] }, none)
  | (registry, some e) => (registry, some e)

/-- The longest alias in front of an operand at the front of the tokens. -/
def matchUnary (registry : OperatorRegistry) (tokens : List Token) : Option (Nat × Nat) :=
  registry.unary.longestMatch tokens

/-- The longest alias behind an operand at the front of the tokens. -/
def matchBinary (registry : OperatorRegistry) (tokens : List Token) : Option (Nat × Nat) :=
  registry.binary.longestMatch tokens

/-- An operator found at the front of tokens. -/
structure Found where
  /-- Its number. -/
  id : Nat
  /-- The operator. -/
  definition : OperatorDefinition
  /-- How many tokens its alias has. -/
  length : Nat

/-- The operator that a match names. -/
def resolve? (registry : OperatorRegistry) (found : Option (Nat × Nat)) : Option Found :=
  found.bind fun pair => (registry.get? pair.1).map fun definition => ⟨pair.1, definition, pair.2⟩

/-- The operator in front of an operand at the front of the tokens. -/
def unaryAt? (registry : OperatorRegistry) (tokens : List Token) : Option Found :=
  registry.resolve? (registry.matchUnary tokens)

/-- The operator behind an operand at the front of the tokens. -/
def binaryAt? (registry : OperatorRegistry) (tokens : List Token) : Option Found :=
  registry.resolve? (registry.matchBinary tokens)

/-- The words of all aliases, in the order of registration. -/
def aliasPieces (registry : OperatorRegistry) : List String :=
  (registry.definitions.flatMap (·.aliases)).flatMap Text.words

/-- The symbols of all aliases, in the order of registration. -/
def symbols (registry : OperatorRegistry) : List String :=
  registry.aliasPieces.filter fun piece => !isWordLike piece

/-- The proper words of all aliases, in the order of registration. -/
def words (registry : OperatorRegistry) : List String :=
  registry.aliasPieces.filter isWordLike

end OperatorRegistry

end Templating
