import Templating.Proofs.Locality
import Templating.Parse.Template

/-! # The grammar of templates

Which tokens are a template, and which tree they stand for: texts, outputs and the core tags, with bodies
inside the block tags. An expression is a segment that is read as one completely. The relations follow the
tokens only; nothing in them depends on how a template is read.
-/

namespace Templating.Parse

/-- The tokens around what a tag with a keyword holds. -/
structure TagTokens (keyword : String) where
  start : Token
  word : Token
  finish : Token
  start_kind : start.kind = .tagStart
  word_kind : word.kind = .keyword
  word_value : word.value = keyword
  finish_kind : finish.kind = .tagEnd

/-- The tokens of a tag. -/
def TagTokens.around {keyword : String} (tag : TagTokens keyword) (content : List Token) : List Token :=
  tag.start :: tag.word :: content ++ [tag.finish]

/-- A name: an identifier, or a word of an operator. -/
def IsVariable (token : Token) : Prop :=
  token.kind = .identifier ∨ token.kind = .operator ∧ isWordLike token.value = true

/-- A text of blanks only. -/
def IsBlankText (token : Token) : Prop :=
  token.kind = .text ∧ token.value.toList.all Text.isBlank = true

/-- The variables of a loop, the word behind them and the expression it runs over, in brackets or not. -/
inductive LoopHead (r : Registries) : List Token → LoopVariables → Tree → Prop
  | value {name word : Token} {tokens : List Token} {iterable : Tree} :
      name.kind = .identifier → word.isWord "in" = true → ReadsWhole r tokens iterable →
      LoopHead r (name :: word :: tokens) ⟨none, name.value⟩ iterable
  | pair {key comma name word : Token} {tokens : List Token} {iterable : Tree} :
      key.kind = .identifier → comma.isPunctuation "," = true → name.kind = .identifier →
      word.isWord "in" = true → ReadsWhole r tokens iterable →
      LoopHead r (key :: comma :: name :: word :: tokens) ⟨some key.value, name.value⟩ iterable
  | bracketedValue {opening name word closing : Token} {tokens : List Token} {iterable : Tree} :
      opening.isPunctuation "(" = true → name.kind = .identifier → word.isWord "in" = true →
      ReadsWhole r tokens iterable → closing.isPunctuation ")" = true →
      LoopHead r (opening :: name :: word :: tokens ++ [closing]) ⟨none, name.value⟩ iterable
  | bracketedPair {opening key comma name word closing : Token} {tokens : List Token} {iterable : Tree} :
      opening.isPunctuation "(" = true → key.kind = .identifier → comma.isPunctuation "," = true →
      IsVariable name → word.isWord "in" = true → ReadsWhole r tokens iterable →
      closing.isPunctuation ")" = true →
      LoopHead r (opening :: key :: comma :: name :: word :: tokens ++ [closing])
        ⟨some key.value, name.value⟩ iterable

mutual

/-- Texts, outputs and tags in order. -/
inductive Body (r : Registries) : List Token → List Tree → Prop
  | nil : Body r [] []
  | cons {first later : List Token} {tree : Tree} {trees : List Tree} :
      Piece r first tree → Body r later trees → Body r (first ++ later) (tree :: trees)

/-- A text, an output or a tag. The tags have the numbers of the core tags. -/
inductive Piece (r : Registries) : List Token → Tree → Prop
  | text {token : Token} :
      token.kind = .text →
      Piece r [token] (.tag 0 [.data (.string token.value) token.line {}] token.line
        (Annotations.set {} "text" (.bool true)))
  | output {start finish : Token} {tokens : List Token} {value : Tree} :
      start.kind = .expressionStart → ReadsWhole r tokens value → finish.kind = .expressionEnd →
      Piece r (start :: tokens ++ [finish]) (.tag 0 [value] start.line {})
  | print (tag : TagTokens "print") {tokens : List Token} {value : Tree} :
      ReadsWhole r tokens value → Piece r (tag.around tokens) (.tag 0 [value] tag.start.line {})
  | conditional (tag : TagTokens "if") {tokens body rest : List Token} {condition : Tree}
      {trees later : List Tree} {hasElse : Bool} :
      ReadsWhole r tokens condition → Body r body trees → Branches r ifWords rest later hasElse →
      Piece r (tag.around tokens ++ body ++ rest)
        (.tag 1 (condition :: .block trees tag.start.line {} :: later) tag.start.line
          (Annotations.set {} "has_else" (.bool hasElse)))
  | loop (tag : TagTokens "for") {head body rest : List Token} {targets : LoopVariables} {iterable : Tree}
      {trees later : List Tree} {hasElse : Bool} :
      LoopHead r head targets iterable → Body r body trees → Branches r forWords rest later hasElse →
      Piece r (tag.around head ++ body ++ rest)
        (.tag 2 (iterable :: .block trees tag.start.line {} :: later) tag.start.line (targets.notes hasElse))
  | switch (tag : TagTokens "switch") {tokens blanks rest : List Token} {subject : Tree}
      {later : List Tree} {hasDefault : Bool} :
      ReadsWhole r tokens subject →
      (∀ blank ∈ blanks, IsBlankText blank) →
      Branches r switchWords rest later hasDefault →
      Piece r (tag.around tokens ++ blanks ++ rest)
        (.tag 3 (subject :: later) tag.start.line (Annotations.set {} "has_default" (.bool hasDefault)))
  | assignment (tag : TagTokens "set") {name equals : Token} {tokens : List Token} {value : Tree} :
      name.kind = .identifier → equals.isPunctuation "=" = true → ReadsWhole r tokens value →
      Piece r (tag.around (name :: equals :: tokens))
        (.tag 4 [value] tag.start.line (Annotations.set {} "name" (.text name.value)))
  | inclusion (tag : TagTokens "include") {tokens : List Token} {value : Tree} :
      ReadsWhole r tokens value → Piece r (tag.around tokens) (.tag 5 [value] tag.start.line {})
  | nested (tag : TagTokens "template") (ending : TagTokens "endtemplate") {name : Token} {body : List Token}
      {trees : List Tree} :
      name.kind = .identifier ∨ name.kind = .string → Body r body trees →
      Piece r (tag.around [name] ++ body ++ ending.around [])
        (.tag 6 [.block trees tag.start.line {}] tag.start.line (Annotations.set {} "name" (.text name.value)))

/-- The branches of a block tag from a keyword on, and the end of its body: branches with an expression,
perhaps a last one without, and the ending. The flag says whether there is the last one. -/
inductive Branches (r : Registries) : BranchWords → List Token → List Tree → Bool → Prop
  | test {words : BranchWords} {keyword : String} (tag : TagTokens keyword) {tokens body rest : List Token}
      {value : Tree} {trees later : List Tree} {hasLast : Bool} :
      words.test = some keyword → ReadsWhole r tokens value → Body r body trees →
      Branches r words rest later hasLast →
      Branches r words (tag.around tokens ++ body ++ rest)
        (value :: .block trees tag.word.line {} :: later) hasLast
  | last {words : BranchWords} (tag : TagTokens words.last) (ending : TagTokens words.ending)
      {body : List Token} {trees : List Tree} :
      Body r body trees →
      Branches r words (tag.around [] ++ body ++ ending.around []) [.block trees tag.word.line {}] true
  | ending {words : BranchWords} (ending : TagTokens words.ending) :
      Branches r words (ending.around []) [] false

end

end Templating.Parse
