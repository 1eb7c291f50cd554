import Templating.Token.Pattern
import Templating.Parse.State
import Templating.Registry.Error

/-! # Tags

The tags that templates may use. A block tag has an ending keyword, and perhaps keywords that divide its
body into branches.
-/

namespace Templating

/-- What a tag does. -/
inductive TagForm where
  /-- Writes the value of an expression. -/
  | print
  /-- Chooses between branches by conditions. -/
  | conditional
  /-- Repeats its body for each entry of a container. -/
  | loop
  /-- Chooses between branches by the value of an expression. -/
  | switch
  /-- Gives a variable a value. -/
  | assignment
  /-- Renders another template. -/
  | inclusion
  /-- Defines a nested template. -/
  | nested
  /-- Wraps its branches, perhaps after an expression. -/
  | custom (takesExpression : Bool)
deriving Repr, DecidableEq, BEq

/-- A tag. -/
structure TagDefinition where
  /-- The keyword that starts it. -/
  keyword : String
  /-- What it does. -/
  form : TagForm
  /-- The rows of tokens it accepts behind the keyword; none at all means any. -/
  grammar : List (List TokenPattern) := []
  /-- The keywords that divide its body. -/
  continuations : List String := []
  /-- The keyword that ends its body. -/
  ending : Option String := none
  /-- What is open while its body is read. -/
  state : Option StateKind := ending.map fun _ => .block
  /-- Whether its body may run more than once. -/
  isRepeating : Bool := false
  /-- Whether its body is a template of its own. -/
  opensUnit : Bool := false
deriving Repr, DecidableEq, BEq

namespace TagDefinition

/-- The keywords that divide or end the body of a tag. -/
def blockKeywords (tag : TagDefinition) : List String :=
  tag.continuations ++ tag.ending.toList

/-- What is open while the body of a tag is read. -/
def bodyState (tag : TagDefinition) : StateKind :=
  tag.state.getD .block

end TagDefinition

/-- The keyword of the tag that writes text and outputs. -/
def printKeyword : String := "print"

/-- The tags that templates may use. A tag's number is its place. -/
structure TagRegistry where
  /-- The tags. -/
  tags : List TagDefinition := []
deriving Repr, DecidableEq, BEq, Inhabited

namespace TagRegistry

/-- The tag with a number. -/
def get? (registry : TagRegistry) (id : Nat) : Option TagDefinition :=
  registry.tags[id]?

/-- The number of the tag with a keyword. -/
def lookup? (registry : TagRegistry) (keyword : String) : Option Nat :=
  registry.tags.findIdx? fun tag => tag.keyword == keyword

/-- Registers a tag. -/
def register (registry : TagRegistry) (tag : TagDefinition) : Except RegistryError TagRegistry :=
  if (registry.lookup? tag.keyword).isSome then .error (.duplicateTag tag.keyword)
  else .ok ⟨registry.tags ++ [tag]⟩

/-- Whether a keyword divides or ends the body of some tag. -/
def isBlockKeyword (registry : TagRegistry) (keyword : String) : Bool :=
  registry.tags.any fun tag => tag.blockKeywords.contains keyword

/-- Whether a keyword divides or ends the body of the tag `owner`. -/
def ownsKeyword (registry : TagRegistry) (owner keyword : String) : Bool :=
  registry.tags.any fun tag => tag.keyword == owner && tag.blockKeywords.contains keyword

/-- Whether a keyword ends the body of some tag. -/
def isEndingKeyword (registry : TagRegistry) (keyword : String) : Bool :=
  registry.tags.any fun tag => tag.ending == some keyword

/-- The keywords that start a tag, and those that divide or end one, each of the two without repetition. -/
def keywords (registry : TagRegistry) : List String :=
  registry.tags.map (·.keyword) ++ (registry.tags.flatMap (·.blockKeywords)).eraseDups

end TagRegistry

end Templating
