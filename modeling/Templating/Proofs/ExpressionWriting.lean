import Templating.Parse.Expression
import Templating.Proofs.Cursor

/-! # Writing expressions down

The expressions over registries, and their written forms: rows of tokens in which every operand stands in
brackets and every operator is spelled as one of its aliases. Every expression has a written form.
-/

namespace Templating

/-- Whether an operator with these operands has one in a slot. -/
def Arity.takes : Arity → Slot → Bool
  | binary, .left => true
  | binary, .middle => false
  | binary, .right => true
  | unaryPrefix, .left => false
  | unaryPrefix, .middle => false
  | unaryPrefix, .right => true
  | test _, .left => true
  | test _, .middle => false
  | test takesArgument, .right => takesArgument
  | ternary, _ => true

/-- The literal that stands for a value. Texts have quotes instead, and numbers below zero or with a
fraction are left to operators and to the form of the source. -/
def Scalar.spelling? : Scalar → Option String
  | .null => some "null"
  | .bool b => some (if b then "true" else "false")
  | .int n => if 0 ≤ n.toInt then some (Nat.repr n.toInt.toNat) else none
  | .float _ => none
  | .string _ => none

mutual

/-- The tree with no lines. -/
def Tree.unlined : Tree → Tree
  | .root children _ notes => .root (unlinedAll children) 0 notes
  | .block children _ notes => .block (unlinedAll children) 0 notes
  | .tag id children _ notes => .tag id (unlinedAll children) 0 notes
  | .operator id left middle right _ notes =>
    .operator id (unlinedOption left) (unlinedOption middle) (unlinedOption right) 0 notes
  | .call callee receiver args _ notes => .call callee (unlinedOption receiver) (unlinedAll args) 0 notes
  | .data value _ notes => .data value 0 notes
  | .list items _ notes => .list (unlinedAll items) 0 notes
  | .variable name _ notes => .variable name 0 notes
  | .identifier name _ notes => .identifier name 0 notes
  | .index base key _ notes => .index base.unlined key.unlined 0 notes
  | .missing id => .missing id

def Tree.unlinedAll : List Tree → List Tree
  | [] => []
  | tree :: rest => tree.unlined :: unlinedAll rest

def Tree.unlinedOption : Option Tree → Option Tree
  | none => none
  | some tree => some tree.unlined

end

namespace Parse

/-- What a name means that is called without a receiver. -/
inductive Calls (r : Registries) (name : String) : Callee → Prop
  | resolved {id : Nat} : r.functions.lookup? name = some id → Calls r name (.resolved id)
  | named : r.functions.lookup? name = none → Calls r name (.named name)

/-- The expressions over registries. -/
inductive Expressible (r : Registries) : Tree → Prop
  | operator {id line : Nat} {definition : OperatorDefinition} {left middle right : Option Tree} :
      r.operators.get? id = some definition → (∃ spelling ∈ definition.aliases, Text.words spelling ≠ []) →
      left.isSome = definition.arity.takes .left → middle.isSome = definition.arity.takes .middle →
      right.isSome = definition.arity.takes .right → (∀ tree ∈ left, Expressible r tree) →
      (∀ tree ∈ middle, Expressible r tree) → (∀ tree ∈ right, Expressible r tree) →
      Expressible r (.operator id left middle right line {})
  | call {name : String} {callee : Callee} {args : List Tree} {line : Nat} :
      isWordLike name = true → Calls r name callee → (∀ arg ∈ args, Expressible r arg) →
      Expressible r (.call callee none args line {})
  | method {name : String} {receiver : Tree} {args : List Tree} {line : Nat} :
      isWordLike name = true → Expressible r receiver → (∀ arg ∈ args, Expressible r arg) →
      Expressible r (.call (.named name) (some receiver) args line {})
  | literal {value : Scalar} {line : Nat} : value.spelling?.isSome = true → Expressible r (.data value line {})
  | string {text : String} {line : Nat} : Expressible r (.data (.string text) line {})
  | list {items : List Tree} {line : Nat} :
      (∀ item ∈ items, Expressible r item) → Expressible r (.list items line {})
  | name {name : String} {line : Nat} : isWordLike name = true → Expressible r (.variable name line {})
  | index {base key : Tree} {line : Nat} :
      Expressible r base → Expressible r key → Expressible r (.index base key line {})
  | field {base : Tree} {name : String} {line inner : Nat} :
      isWordLike name = true → Expressible r base →
      Expressible r (.index base (.identifier name inner {}) line {})

/-- Tokens between an opening and a closing sign. -/
def Enclosed (opener closer : String) (inner tokens : List Token) : Prop :=
  ∃ opening closing : Token, opening.isPunctuation opener = true ∧ closing.isPunctuation closer = true ∧
    tokens = opening :: (inner ++ [closing])

/-- Parts with a comma between each two. -/
inductive Separated : List (List Token) → List Token → Prop
  | nil : Separated [] []
  | one {part : List Token} : Separated [part] part
  | more {part second rest : List Token} {parts : List (List Token)} {comma : Token} :
      comma.isPunctuation "," = true → Separated (second :: parts) rest →
      Separated (part :: second :: parts) (part ++ comma :: rest)

/-- The words of an alias as tokens. -/
structure Spells (definition : OperatorDefinition) (words : List Token) : Prop where
  ne_nil : words ≠ []
  isOperator : ∀ word ∈ words, word.kind = .operator
  listed : ∃ spelling ∈ definition.aliases, words.map Token.value = Text.words spelling

/-- The token is an identifier with this name. -/
def Identifies (name : String) (token : Token) : Prop :=
  token.kind = .identifier ∧ token.value = name ∧ isWordLike name = true

/-- The tokens of an expression, on any lines. The operands of operators and what indexes, attributes and
methods are taken from stand in brackets; brackets around anything else are free. -/
inductive Writes (r : Registries) : Tree → List Token → Prop
  | group {tree : Tree} {inner tokens : List Token} :
      Writes r tree inner → Enclosed "(" ")" inner tokens → Writes r tree tokens
  | literal {value : Scalar} {line : Nat} {token : Token} :
      token.kind = .literal → value.spelling? = some token.value → Writes r (.data value line {}) [token]
  | string {text : String} {line : Nat} {token : Token} :
      token.kind = .string → token.value = text → Writes r (.data (.string text) line {}) [token]
  | name {name : String} {line : Nat} {token : Token} :
      Identifies name token → Writes r (.variable name line {}) [token]
  | list {items : List (Tree × List Token)} {line : Nat} {parts tokens : List Token} :
      (∀ item ∈ items, Writes r item.1 item.2) → Separated (items.map Prod.snd) parts →
      Enclosed "[" "]" parts tokens → Writes r (.list (items.map Prod.fst) line {}) tokens
  | call {name : String} {callee : Callee} {args : List (Tree × List Token)} {line : Nat} {token : Token}
      {parts tokens : List Token} :
      Identifies name token → Calls r name callee → (∀ arg ∈ args, Writes r arg.1 arg.2) →
      Separated (args.map Prod.snd) parts → Enclosed "(" ")" parts tokens →
      Writes r (.call callee none (args.map Prod.fst) line {}) (token :: tokens)
  | method {receiver : Tree} {name : String} {args : List (Tree × List Token)} {line : Nat} {dot token : Token}
      {inner base parts tokens : List Token} :
      Writes r receiver inner → Enclosed "(" ")" inner base → dot.isPunctuation "." = true →
      Identifies name token → (∀ arg ∈ args, Writes r arg.1 arg.2) → Separated (args.map Prod.snd) parts →
      Enclosed "(" ")" parts tokens →
      Writes r (.call (.named name) (some receiver) (args.map Prod.fst) line {}) (base ++ dot :: token :: tokens)
  | index {base key : Tree} {line : Nat} {inner front within tokens : List Token} :
      Writes r base inner → Enclosed "(" ")" inner front → Writes r key within →
      Enclosed "[" "]" within tokens → Writes r (.index base key line {}) (front ++ tokens)
  | field {base : Tree} {name : String} {line inside : Nat} {dot token : Token} {inner front : List Token} :
      Writes r base inner → Enclosed "(" ")" inner front → dot.isPunctuation "." = true → Identifies name token →
      Writes r (.index base (.identifier name inside {}) line {}) (front ++ [dot, token])
  | before {id line : Nat} {definition : OperatorDefinition} {right : Tree} {words inner back : List Token} :
      r.operators.get? id = some definition → definition.arity = .unaryPrefix → Spells definition words →
      Writes r right inner → Enclosed "(" ")" inner back →
      Writes r (.operator id none none (some right) line {}) (words ++ back)
  | behind {id line : Nat} {definition : OperatorDefinition} {left : Tree} {words inner front : List Token} :
      r.operators.get? id = some definition → definition.arity = .test false → Spells definition words →
      Writes r left inner → Enclosed "(" ")" inner front →
      Writes r (.operator id (some left) none none line {}) (front ++ words)
  | between {id line : Nat} {definition : OperatorDefinition} {left right : Tree}
      {words inner front within back : List Token} :
      r.operators.get? id = some definition → definition.arity = .binary ∨ definition.arity = .test true →
      Spells definition words → Writes r left inner → Enclosed "(" ")" inner front →
      Writes r right within → Enclosed "(" ")" within back →
      Writes r (.operator id (some left) none (some right) line {}) (front ++ (words ++ back))
  | choice {id line : Nat} {definition : OperatorDefinition} {left middle right : Tree} {colon : Token}
      {words inner front between amid within back : List Token} :
      r.operators.get? id = some definition → definition.arity = .ternary → Spells definition words →
      Writes r left inner → Enclosed "(" ")" inner front → Writes r middle between →
      Enclosed "(" ")" between amid → colon.isPunctuation ":" = true → Writes r right within →
      Enclosed "(" ")" within back →
      Writes r (.operator id (some left) (some middle) (some right) line {})
        (front ++ (words ++ (amid ++ colon :: back)))

variable {r : Registries} {tree : Tree} {tokens : List Token}

def sign (text : String) : Token := ⟨.punctuation, text, 1⟩

theorem isPunctuation_sign (text : String) : (sign text).isPunctuation text = true :=
  Token.isPunctuation_iff.mpr ⟨rfl, rfl⟩

theorem exists_enclosed (opener closer : String) (inner : List Token) : ∃ tokens, Enclosed opener closer inner tokens :=
  ⟨_, sign opener, sign closer, isPunctuation_sign opener, isPunctuation_sign closer, rfl⟩

theorem exists_separated (parts : List (List Token)) : ∃ tokens, Separated parts tokens := by
  induction parts with
  | nil => exact ⟨[], .nil⟩
  | cons part parts ih =>
      cases parts with
      | nil => exact ⟨part, .one⟩
      | cons second rest =>
          obtain ⟨tokens, separated⟩ := ih
          exact ⟨_, .more (isPunctuation_sign ",") separated⟩

theorem exists_identifies {name : String} (wordLike : isWordLike name = true) : ∃ token, Identifies name token :=
  ⟨⟨.identifier, name, 1⟩, rfl, rfl, wordLike⟩

theorem exists_spells {definition : OperatorDefinition}
    (written : ∃ spelling ∈ definition.aliases, Text.words spelling ≠ []) : ∃ words, Spells definition words := by
  obtain ⟨spelling, listed, some_word⟩ := written
  refine ⟨(Text.words spelling).map fun word => ⟨.operator, word, 1⟩, by simpa using some_word, ?_, spelling, listed, ?_⟩
  · intro word member
    obtain ⟨text, -, rfl⟩ := List.mem_map.mp member
    rfl
  · simp [Function.comp_def]

theorem exists_writes_all {trees : List Tree} (writable : ∀ tree ∈ trees, ∃ tokens, Writes r tree tokens) :
    ∃ items : List (Tree × List Token), items.map Prod.fst = trees ∧ ∀ item ∈ items, Writes r item.1 item.2 := by
  induction trees with
  | nil => exact ⟨[], rfl, fun _ member => absurd member List.not_mem_nil⟩
  | cons tree trees ih =>
      obtain ⟨tokens, writes⟩ := writable tree List.mem_cons_self
      obtain ⟨items, same, rest⟩ := ih fun other member => writable other (List.mem_cons_of_mem _ member)
      exact ⟨(tree, tokens) :: items, by simp [same], List.forall_mem_cons.mpr ⟨writes, rest⟩⟩

theorem exists_some {operand : Option Tree} {takes : Bool} (filled : operand.isSome = takes) (taken : takes = true) :
    ∃ tree, operand = some tree :=
  Option.isSome_iff_exists.mp (filled.trans taken)

theorem eq_none {operand : Option Tree} {takes : Bool} (filled : operand.isSome = takes) (left_out : takes = false) :
    operand = none :=
  Option.isNone_iff_eq_none.mp (by rw [← Option.not_isSome, filled, left_out]; rfl)

theorem Expressible.exists_writes (expressible : Expressible r tree) : ∃ tokens, Writes r tree tokens := by
  induction expressible with
  | @operator id line definition left middle right registered written leftFilled middleFilled rightFilled _ _ _
      lefts middles rights =>
      obtain ⟨words, spells⟩ := exists_spells written
      cases arity : definition.arity with
      | binary =>
          rw [arity] at leftFilled middleFilled rightFilled
          obtain ⟨first, rfl⟩ := exists_some leftFilled rfl
          obtain rfl := eq_none middleFilled rfl
          obtain ⟨second, rfl⟩ := exists_some rightFilled rfl
          obtain ⟨inner, writes⟩ := lefts first rfl
          obtain ⟨within, writes'⟩ := rights second rfl
          obtain ⟨front, enclosed⟩ := exists_enclosed "(" ")" inner
          obtain ⟨back, enclosed'⟩ := exists_enclosed "(" ")" within
          exact ⟨_, .between registered (.inl arity) spells writes enclosed writes' enclosed'⟩
      | unaryPrefix =>
          rw [arity] at leftFilled middleFilled rightFilled
          obtain rfl := eq_none leftFilled rfl
          obtain rfl := eq_none middleFilled rfl
          obtain ⟨second, rfl⟩ := exists_some rightFilled rfl
          obtain ⟨inner, writes⟩ := rights second rfl
          obtain ⟨back, enclosed⟩ := exists_enclosed "(" ")" inner
          exact ⟨_, .before registered arity spells writes enclosed⟩
      | test takesArgument =>
          rw [arity] at leftFilled middleFilled rightFilled
          obtain ⟨first, rfl⟩ := exists_some leftFilled rfl
          obtain rfl := eq_none middleFilled rfl
          obtain ⟨inner, writes⟩ := lefts first rfl
          obtain ⟨front, enclosed⟩ := exists_enclosed "(" ")" inner
          cases takesArgument with
          | false =>
              obtain rfl := eq_none rightFilled rfl
              exact ⟨_, .behind registered arity spells writes enclosed⟩
          | true =>
              obtain ⟨second, rfl⟩ := exists_some rightFilled rfl
              obtain ⟨within, writes'⟩ := rights second rfl
              obtain ⟨back, enclosed'⟩ := exists_enclosed "(" ")" within
              exact ⟨_, .between registered (.inr arity) spells writes enclosed writes' enclosed'⟩
      | ternary =>
          rw [arity] at leftFilled middleFilled rightFilled
          obtain ⟨first, rfl⟩ := exists_some leftFilled rfl
          obtain ⟨second, rfl⟩ := exists_some middleFilled rfl
          obtain ⟨third, rfl⟩ := exists_some rightFilled rfl
          obtain ⟨inner, writes⟩ := lefts first rfl
          obtain ⟨between, writes'⟩ := middles second rfl
          obtain ⟨within, writes''⟩ := rights third rfl
          obtain ⟨front, enclosed⟩ := exists_enclosed "(" ")" inner
          obtain ⟨amid, enclosed'⟩ := exists_enclosed "(" ")" between
          obtain ⟨back, enclosed''⟩ := exists_enclosed "(" ")" within
          exact ⟨_, .choice registered arity spells writes enclosed writes' enclosed' (isPunctuation_sign ":")
            writes'' enclosed''⟩
  | call wordLike calls _ writable =>
      obtain ⟨token, identifies⟩ := exists_identifies wordLike
      obtain ⟨items, rfl, writes⟩ := exists_writes_all writable
      obtain ⟨parts, separated⟩ := exists_separated (items.map Prod.snd)
      obtain ⟨tokens, enclosed⟩ := exists_enclosed "(" ")" parts
      exact ⟨_, .call identifies calls writes separated enclosed⟩
  | method wordLike _ _ receiving writable =>
      obtain ⟨token, identifies⟩ := exists_identifies wordLike
      obtain ⟨inner, receiver⟩ := receiving
      obtain ⟨base, bracketed⟩ := exists_enclosed "(" ")" inner
      obtain ⟨items, rfl, writes⟩ := exists_writes_all writable
      obtain ⟨parts, separated⟩ := exists_separated (items.map Prod.snd)
      obtain ⟨tokens, enclosed⟩ := exists_enclosed "(" ")" parts
      exact ⟨_, .method receiver bracketed (isPunctuation_sign ".") identifies writes separated enclosed⟩
  | literal spelled =>
      obtain ⟨text, spelling⟩ := Option.isSome_iff_exists.mp spelled
      exact ⟨[⟨.literal, text, 1⟩], .literal rfl spelling⟩
  | @string text line => exact ⟨[⟨.string, text, 1⟩], .string rfl rfl⟩
  | list _ writable =>
      obtain ⟨items, rfl, writes⟩ := exists_writes_all writable
      obtain ⟨parts, separated⟩ := exists_separated (items.map Prod.snd)
      obtain ⟨tokens, enclosed⟩ := exists_enclosed "[" "]" parts
      exact ⟨_, .list writes separated enclosed⟩
  | name wordLike =>
      obtain ⟨token, identifies⟩ := exists_identifies wordLike
      exact ⟨_, .name identifies⟩
  | index _ _ bases keys =>
      obtain ⟨inner, base⟩ := bases
      obtain ⟨within, key⟩ := keys
      obtain ⟨front, bracketed⟩ := exists_enclosed "(" ")" inner
      obtain ⟨tokens, enclosed⟩ := exists_enclosed "[" "]" within
      exact ⟨_, .index base bracketed key enclosed⟩
  | field wordLike _ bases =>
      obtain ⟨inner, base⟩ := bases
      obtain ⟨front, bracketed⟩ := exists_enclosed "(" ")" inner
      obtain ⟨token, identifies⟩ := exists_identifies wordLike
      exact ⟨_, .field base bracketed (isPunctuation_sign ".") identifies⟩

end Parse

end Templating
