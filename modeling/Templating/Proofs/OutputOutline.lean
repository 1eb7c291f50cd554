import Mathlib.Data.List.Forall2
import Templating.Proofs.BlockGrammar
import Templating.Proofs.SourceSplitting
import Templating.Proofs.TreeShape

/-! # The parts of a template that reach the output

A template writes its texts, the values of its outputs and the templates that it includes. One walk over the
tokens finds these parts without reading anything else: a tag that prints or includes holds an expression, a
nested template takes the parts up to its ending, and blanks between a choice and its first branch are no
part. The tree of a template has parts as well; its outline is what the walk is compared with.
-/

namespace Templating

theorem forall₂_comp {α β γ : Type} {R : α → β → Prop} {S : β → γ → Prop} {T : α → γ → Prop} {as : List α} {bs : List β}
    {cs : List γ} (related : ∀ a b c, R a b → S b c → T a c) (left : List.Forall₂ R as bs)
    (right : List.Forall₂ S bs cs) : List.Forall₂ T as cs := by
  induction left generalizing cs with
  | nil =>
      cases right
      exact .nil
  | cons here _ ih =>
      cases right with
      | cons there later => exact .cons (related _ _ _ here there) (ih later)

/-- A part of a template that reaches the output. -/
inductive Part (ε : Type) where
  | text (value : String)
  | value (e : ε)
  | inclusion (e : ε)
deriving Repr, DecidableEq

/-- The parts of a template, and those of the templates nested in it in the order in which these end. -/
structure Outline (α : Type) where
  parts : List α := []
  units : List (String × List α) := []
deriving Repr, DecidableEq

namespace Outline

variable {α β γ : Type}

instance : Append (Outline α) where
  append first second := ⟨first.parts ++ second.parts, first.units ++ second.units⟩

def single (part : α) : Outline α :=
  ⟨[part], []⟩

/-- What the outline of a nested template adds to the one around it: units only. -/
def nested (name : String) (inner : Outline α) : Outline α :=
  ⟨[], inner.units ++ [(name, inner.parts)]⟩

theorem append_eq (first second : Outline α) :
    first ++ second = ⟨first.parts ++ second.parts, first.units ++ second.units⟩ :=
  rfl

@[simp] theorem append_empty (outline : Outline α) : outline ++ {} = outline := by
  simp [append_eq]

@[simp] theorem empty_append (outline : Outline α) : ({} : Outline α) ++ outline = outline := by
  simp [append_eq]

theorem append_assoc (first second third : Outline α) : first ++ second ++ third = first ++ (second ++ third) := by
  simp [append_eq]

/-- Outlines with the same units whose parts are related one to one and in order. -/
structure Matches (R : α → β → Prop) (first : Outline α) (second : Outline β) : Prop where
  parts : List.Forall₂ R first.parts second.parts
  units : List.Forall₂ (fun a b => a.1 = b.1 ∧ List.Forall₂ R a.2 b.2) first.units second.units

namespace Matches

variable {R : α → β → Prop} {S : β → γ → Prop} {first first' : Outline α} {second second' : Outline β}

theorem empty : Matches R {} {} :=
  ⟨.nil, .nil⟩

theorem single {a : α} {b : β} (related : R a b) : Matches R (.single a) (.single b) :=
  ⟨.cons related .nil, .nil⟩

theorem append (front : first.Matches R second) (back : first'.Matches R second') :
    (first ++ first').Matches R (second ++ second') :=
  ⟨List.rel_append front.parts back.parts, List.rel_append front.units back.units⟩

theorem nested (name : String) (inner : first.Matches R second) :
    (Outline.nested name first).Matches R (Outline.nested name second) :=
  ⟨.nil, List.rel_append inner.units (.cons ⟨rfl, inner.parts⟩ .nil)⟩

theorem comp {T : α → γ → Prop} {third : Outline γ} (related : ∀ a b c, R a b → S b c → T a c)
    (front : first.Matches R second) (back : second.Matches S third) : first.Matches T third := by
  refine ⟨forall₂_comp related front.parts back.parts, forall₂_comp ?_ front.units back.units⟩
  rintro a b c ⟨named, inner⟩ ⟨named', inner'⟩
  exact ⟨named.trans named', forall₂_comp related inner inner'⟩

end Matches

end Outline

/-- What a tag that prints shows: a text of the template, or a value. -/
def Tree.printed (isText : Bool) (shown : Tree) : Part Tree :=
  match isText, shown with
  | true, .data (.string text) _ _ => .text text
  | _, shown => .value shown

mutual

/-- The parts below a node. -/
def Tree.outline (r : Registries) : Tree → Outline (Part Tree)
  | .root children _ _ => Tree.outlineAll r children
  | .block children _ _ => Tree.outlineAll r children
  | .tag id children _ notes =>
    match (r.tags.get? id).map TagDefinition.form, children with
    | some .print, [shown] => .single (shown.printed (notes.flag "text" false))
    | some .inclusion, [shown] => .single (.inclusion shown)
    | some .nested, [content] => .nested ((notes.text? "name").getD "") (content.outline r)
    | _, children => Tree.outlineAll r children
  | _ => {}

def Tree.outlineAll (r : Registries) : List Tree → Outline (Part Tree)
  | [] => {}
  | tree :: trees => tree.outline r ++ Tree.outlineAll r trees

end

section

variable {r : Registries} {id line : Nat} {shown content : Tree} {children : List Tree} {notes : Annotations}

theorem Tree.outline_print (numbered : r.tags.get? id = some Core.printTag) :
    (Tree.tag id [shown] line notes).outline r = .single (shown.printed (notes.flag "text" false)) := by
  simp [Tree.outline, numbered, Core.printTag]

theorem Tree.outline_inclusion (numbered : r.tags.get? id = some Core.includeTag) :
    (Tree.tag id [shown] line notes).outline r = .single (.inclusion shown) := by
  simp [Tree.outline, numbered, Core.includeTag]

theorem Tree.outline_nested {name : String} (numbered : r.tags.get? id = some Core.templateTag)
    (named : notes.text? "name" = some name) :
    (Tree.tag id [content] line notes).outline r = .nested name (content.outline r) := by
  simp [Tree.outline, numbered, named, Core.templateTag]

theorem Tree.outline_tag {definition : TagDefinition} (numbered : r.tags.get? id = some definition)
    (other : definition ∈ [Core.ifTag, Core.forTag, Core.switchTag, Core.setTag]) :
    (Tree.tag id children line notes).outline r = Tree.outlineAll r children := by
  simp only [List.mem_cons, List.not_mem_nil, or_false] at other
  rcases other with rfl | rfl | rfl | rfl <;>
    simp [Tree.outline, numbered, Core.ifTag, Core.forTag, Core.switchTag, Core.setTag]

theorem Parse.IsExpression.outline (shape : IsExpression r shown) : shown.outline r = {} := by
  cases shape <;> simp [Tree.outline]

theorem Tree.outlineAll_append (first second : List Tree) :
    Tree.outlineAll r (first ++ second) = Tree.outlineAll r first ++ Tree.outlineAll r second := by
  induction first with
  | nil => simp [Tree.outlineAll]
  | cons tree first ih => simp [Tree.outlineAll, ih, Outline.append_assoc]

end

/-- The keyword of a tag and what it holds behind it; without a keyword, that of the tag that stands in. -/
def tagParts (fallback : Option String) : List Token → Option String × List Token
  | [] => (fallback, [])
  | token :: rest => if token.kind = .keyword then (some token.value, rest) else (fallback, token :: rest)

/-- How far a walk over the tokens has come. -/
structure Outliner where
  /-- The tokens since the last delimiter. -/
  inside : List Token := []
  /-- Whether the last tag was a choice, whose first branch is still to come. -/
  awaitsBranch : Bool := false
  /-- The outline of the innermost template so far. -/
  outline : Outline (Part (List Token)) := {}
  /-- The names of the nested templates that are open, with the parts of the templates around them. -/
  around : List (String × List (Part (List Token))) := []

namespace Outliner

def add (o : Outliner) (part : Part (List Token)) : Outliner :=
  { o with outline := o.outline ++ .single part }

def openUnit (o : Outliner) (name : String) : Outliner :=
  { o with outline := ⟨[], o.outline.units⟩, around := (name, o.outline.parts) :: o.around }

def closeUnit (o : Outliner) : Outliner :=
  match o.around with
  | [] => o
  | (name, parts) :: around => { o with outline := ⟨parts, []⟩ ++ .nested name o.outline, around := around }

/-- What a tag does that holds `content`. -/
def act (o : Outliner) (keyword : Option String) (content : List Token) : Outliner :=
  match keyword with
  | some "print" => o.add (.value content)
  | some "include" => o.add (.inclusion content)
  | some "switch" => { o with awaitsBranch := true }
  | some "template" => o.openUnit ((content.head?.map Token.value).getD "")
  | some "endtemplate" => o.closeUnit
  | _ => o

def step (fallback : Option String) (o : Outliner) (token : Token) : Outliner :=
  match token.kind with
  | .text => if o.awaitsBranch && token.value.toList.all Text.isBlank then o else o.add (.text token.value)
  | .expressionEnd => { o with inside := [] }.add (.value o.inside)
  | .tagEnd =>
    let (keyword, content) := tagParts fallback o.inside
    { o with inside := [], awaitsBranch := false }.act keyword content
  | .tagStart | .expressionStart | .eof => o
  | _ => { o with inside := o.inside ++ [token] }

end Outliner

/-- The outline of a template, read off its tokens. -/
def outlineOf (fallback : Option String) (tokens : List Token) : Outline (Part (List Token)) :=
  (tokens.foldl (Outliner.step fallback) {}).outline

namespace Outliner

variable {fallback : Option String} {o : Outliner} {start finish : Token} {tokens content : List Token}

/-- The keywords of tags that matter to an outline. -/
def acting : List String :=
  ["print", "include", "switch", "template", "endtemplate"]

theorem act_of_not_acting {keyword : String} (other : keyword ∉ acting) : o.act (some keyword) content = o := by
  simp only [acting, List.mem_cons, List.not_mem_nil, or_false, not_or] at other
  unfold act
  split <;> simp_all

theorem step_of_kind {kind : TokenKind} {token : Token} (ofKind : token.kind = kind)
    (skipped : kind ∈ [.tagStart, .expressionStart, .eof]) : o.step fallback token = o := by
  simp only [List.mem_cons, List.not_mem_nil, or_false] at skipped
  unfold step
  rw [ofKind]
  rcases skipped with rfl | rfl | rfl <;> rfl

theorem foldl_inner (inner : ∀ token ∈ tokens, token.kind ∈ Source.innerKinds) :
    tokens.foldl (step fallback) o = { o with inside := o.inside ++ tokens } := by
  induction tokens generalizing o with
  | nil => simp
  | cons token tokens ih =>
      obtain ⟨first, rest⟩ := List.forall_mem_cons.mp inner
      have stepped : o.step fallback token = { o with inside := o.inside ++ [token] } := by
        simp only [Source.innerKinds, List.mem_cons, List.not_mem_nil, or_false] at first
        unfold step
        rcases first with kind | kind | kind | kind | kind | kind <;> rw [kind]
      rw [List.foldl_cons, stepped, ih rest]
      simp

theorem foldl_tag {keyword : Option String} {inside : List Token} (isStart : start.kind = .tagStart)
    (isEnd : finish.kind = .tagEnd) (inner : ∀ token ∈ inside, token.kind ∈ Source.innerKinds)
    (parts : tagParts fallback inside = (keyword, content)) (empty : o.inside = []) :
    (start :: inside ++ [finish]).foldl (step fallback) o = { o with awaitsBranch := false }.act keyword content := by
  rw [List.cons_append, List.foldl_cons, step_of_kind isStart (by simp), List.foldl_append, foldl_inner inner]
  simp [step, isEnd, empty, parts]

theorem foldl_blanks (areBlank : ∀ blank ∈ tokens, Parse.IsBlankText blank) (awaits : o.awaitsBranch = true) :
    tokens.foldl (step fallback) o = o := by
  induction tokens with
  | nil => rfl
  | cons token tokens ih =>
      obtain ⟨⟨isText, isBlank⟩, rest⟩ := List.forall_mem_cons.mp areBlank
      rw [List.foldl_cons, show o.step fallback token = o by simp [step, isText, awaits, isBlank]]
      exact ih rest

/-- A walk over some tokens, between tags, adds an outline to that of the innermost template. -/
def Adds (fallback : Option String) (awaits : Bool) (tokens : List Token) (found : Outline (Part (List Token))) : Prop :=
  ∀ outline around, tokens.foldl (step fallback) { awaitsBranch := awaits, outline := outline, around := around } =
    { outline := outline ++ found, around := around }

theorem adds_text (isText : start.kind = .text) : Adds fallback false [start] (.single (.text start.value)) := by
  intro outline around
  simp [step, isText, add]

theorem adds_output (isStart : start.kind = .expressionStart) (isEnd : finish.kind = .expressionEnd)
    (inner : ∀ token ∈ tokens, token.kind ∈ Source.innerKinds) :
    Adds fallback false (start :: tokens ++ [finish]) (.single (.value tokens)) := by
  intro outline around
  rw [List.cons_append, List.foldl_cons, step_of_kind isStart (by simp), List.foldl_append, foldl_inner inner]
  simp [step, isEnd, add]

/-- A walk over the body of a nested template and its ending adds the body as a unit. -/
theorem foldl_unit {name : String} {found : Outline (Part (List Token))} (walk : Adds fallback false tokens found)
    (tag : Parse.TagTokens "endtemplate") (outline : Outline (Part (List Token)))
    (around : List (String × List (Part (List Token)))) :
    (tokens ++ tag.around []).foldl (step fallback) (openUnit { outline := outline, around := around } name) =
      { outline := outline ++ .nested name found, around := around } := by
  have parts : tagParts fallback [tag.word] = (some "endtemplate", []) := by
    simp [tagParts, tag.word_kind, tag.word_value]
  have inner : ∀ token ∈ [tag.word], token.kind ∈ Source.innerKinds := by simp [tag.word_kind, Source.innerKinds]
  have opened : openUnit { outline := outline, around := around } name =
      { outline := ⟨[], outline.units⟩, around := (name, outline.parts) :: around } := rfl
  rw [List.foldl_append, opened, walk]
  refine (foldl_tag tag.start_kind tag.finish_kind inner parts rfl).trans ?_
  simp [act, closeUnit, Outline.append_eq, Outline.nested]

end Outliner

end Templating
