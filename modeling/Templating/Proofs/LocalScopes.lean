import Templating.Compile.Expression
import Templating.Proofs.CodeLexemes
import Templating.Proofs.CoreExtension
import Templating.Proofs.NumberCharacters
import Templating.Proofs.Outcome
import Templating.Proofs.Registration
import Templating.Registry.Core

/-! # The scopes of locals in code

A walk over the words and marks of code follows where the numbered locals are declared and where they may be used. A local
that `let` binds may be used behind its statement to the end of the block; one in the pattern of a loop may be used inside
the braces of the loop. The expressions of templates leave the walk where it was: no local stands in them, and nothing that
declares one.
-/

namespace Templating

namespace Code

/-- Whether a word is the name of a numbered local. -/
def isTemporary : List Char → Bool
  | '_' :: 't' :: 'm' :: 'p' :: digits => !digits.isEmpty && digits.all Char.isDigit
  | _ => false

/-- What a name does where it stands. -/
inductive Role where
  | used
  | bound
  | pattern
deriving Repr, DecidableEq

/-- The locals of a block. -/
structure Block where
  /-- Those that may be used. -/
  names : List (List Char) := []
  /-- Those that the statement so far binds. -/
  bound : List (List Char) := []
  /-- Those in the pattern of the loop that comes next. -/
  pattern : List (List Char) := []
deriving Repr, DecidableEq

/-- How far a walk over code has come. -/
structure Scopes where
  /-- The locals that were declared, in this order. -/
  declared : List (List Char) := []
  current : Block := {}
  /-- The blocks around it, the nearest first. -/
  outer : List Block := []
  role : Role := .used
deriving Repr, DecidableEq

namespace Scopes

def sees (s : Scopes) (name : List Char) : Bool :=
  s.current.names.contains name || s.outer.any (·.names.contains name)

def word (s : Scopes) (text : List Char) : Option Scopes :=
  if isTemporary text then
    match s.role with
    | .used => if s.sees text then some s else none
    | .bound =>
      some { s with
        declared := s.declared ++ [text]
        current := { s.current with bound := s.current.bound ++ [text] } }
    | .pattern =>
      some { s with
        declared := s.declared ++ [text]
        current := { s.current with pattern := s.current.pattern ++ [text] } }
  else if text = "let".toList then some { s with role := .bound }
  else if text = "for".toList then some { s with role := .pattern }
  else if text = "in".toList then some { s with role := .used }
  else some s

def mark (s : Scopes) (c : Char) : Option Scopes :=
  if c = '=' then some { s with role := .used }
  else if c = ';' then
    some { s with role := .used, current := { s.current with names := s.current.names ++ s.current.bound, bound := [] } }
  else if c = '\x7b' then
    some { s with role := .used, current := { names := s.current.pattern }, outer := { s.current with pattern := [] } :: s.outer }
  else if c = '\x7d' then
    match s.outer with
    | [] => none
    | block :: outer => some { s with role := .used, current := block, outer := outer }
  else some s

def step (s : Scopes) : Lexeme → Option Scopes
  | .word text => s.word text
  | .mark c => s.mark c

/-- Walks over code; there is no result if a local is used where it may not be. -/
def check (s : Scopes) (found : List Lexeme) : Option Scopes :=
  found.foldlM step s

-- Used before its declaration, behind its block, behind its loop, in its own declaration; and in order.
example : check {} (lexemes "f(_tmp0); let _tmp0 = 1;") = none := by decide
example : check {} (lexemes "\x7b let _tmp0 = 1; \x7d f(_tmp0);") = none := by decide
example : check {} (lexemes "for (_tmp0, _tmp1) in x \x7b \x7d f(_tmp1);") = none := by decide
example : check {} (lexemes "let _tmp0 = _tmp0;") = none := by decide
example : check {} (lexemes "let _tmp0 = 1; for (_tmp1, _) in f(_tmp0) \x7b let _tmp0 = _tmp1; g(\"_tmp2\"); \x7d") =
    some { declared := ["_tmp0", "_tmp1", "_tmp0"].map String.toList, current := { names := ["_tmp0".toList] } } := by decide

theorem check_append (s : Scopes) (first rest : List Lexeme) : s.check (first ++ rest) = (s.check first).bind (check · rest) := by
  rw [check, List.foldlM_append]
  rfl

/-- Between expressions: names are used, and no loop is about to begin. -/
structure Still (s : Scopes) : Prop where
  role : s.role = .used
  pattern : s.current.pattern = []

end Scopes

/-- Whether a lexeme has no part in the scopes of locals. -/
def Lexeme.isPlain : Lexeme → Bool
  | .word text => !isTemporary text && text != "let".toList && text != "for".toList
  | .mark c => !(";\x7b\x7d".toList.contains c)

theorem Lexeme.isPlain_word {text : List Char} (other : isTemporary text = false) (noLet : text ≠ "let".toList)
    (noFor : text ≠ "for".toList) : (Lexeme.word text).isPlain = true := by
  rw [isPlain, other, bne_iff_ne.mpr noLet, bne_iff_ne.mpr noFor]
  rfl

theorem Scopes.check_plain {s : Scopes} {found : List Lexeme} (used : s.role = .used)
    (plain : ∀ lexeme ∈ found, lexeme.isPlain = true) : s.check found = some s := by
  induction found with
  | nil => rfl
  | cons lexeme found ih =>
      obtain ⟨first, rest⟩ := List.forall_mem_cons.mp plain
      have stays : s.step lexeme = some s := by
        obtain ⟨declared, current, outer, role⟩ := s
        cases used
        cases lexeme with
        | word text =>
            simp only [Lexeme.isPlain, Bool.and_eq_true, Bool.not_eq_true', bne_iff_ne] at first
            obtain ⟨⟨other, noLet⟩, noFor⟩ := first
            rw [step, word, if_neg (by rw [other]; exact Bool.false_ne_true), if_neg noLet, if_neg noFor]
            split <;> rfl
        | mark c =>
            have other : c ≠ ';' ∧ c ≠ '\x7b' ∧ c ≠ '\x7d' := by simpa [Lexeme.isPlain] using first
            simp [step, mark, other]
      rw [Scopes.check, List.foldlM_cons, stays]
      exact ih rest

/-- Reading the text leads from one place of a walk to another. -/
def Reads (text : String) (s s' : Scopes) : Prop :=
  ∃ found, Closed text found ∧ s.check found = some s'

/-- So does reading it in front of anything that is apart from it. -/
def Sees (text : String) (s s' : Scopes) : Prop :=
  ∃ found, Lexes text found ∧ s.check found = some s'

section

variable {first rest : String} {s middle s' : Scopes}

theorem Reads.sees (reads : Reads first s s') : Sees first s s' := by
  obtain ⟨found, closed, checked⟩ := reads
  exact ⟨found, closed.lexes, checked⟩

theorem Reads.append (one : Reads first s middle) (other : Reads rest middle s') : Reads (first ++ rest) s s' := by
  obtain ⟨found, closed, checked⟩ := one
  obtain ⟨more, closedRest, checkedRest⟩ := other
  exact ⟨found ++ more, closed.append closedRest, by rw [Scopes.check_append, checked]; exact checkedRest⟩

theorem Reads.append_sees (one : Reads first s middle) (other : Sees rest middle s') : Sees (first ++ rest) s s' := by
  obtain ⟨found, closed, checked⟩ := one
  obtain ⟨more, lexes, checkedRest⟩ := other
  exact ⟨found ++ more, closed.append_lexes lexes, by rw [Scopes.check_append, checked]; exact checkedRest⟩

theorem Sees.append (one : Sees first s middle) (other : Reads rest middle s') (apart : beginsApart rest = true)
    (some_char : rest ≠ "") : Reads (first ++ rest) s s' := by
  obtain ⟨found, lexes, checked⟩ := one
  obtain ⟨more, closed, checkedRest⟩ := other
  exact ⟨found ++ more, lexes.append_closed closed apart some_char, by rw [Scopes.check_append, checked]; exact checkedRest⟩

end

/-- Nothing in the text matters to the scopes of locals, in front of anything that is apart from it. -/
def Quiet (text : String) : Prop :=
  ∀ ⦃s : Scopes⦄, s.Still → Sees text s s

/-- Nothing in the text matters to the scopes of locals, and no word goes on behind it. -/
def Sealed (text : String) : Prop :=
  ∀ ⦃s : Scopes⦄, s.Still → Reads text s s

/-- Whether all of a text is plain, up to a word at its end. -/
def isQuiet (text : String) : Bool :=
  (lexemes text).all Lexeme.isPlain && (Scan.run (.code []) text.toList).2 matches .code _

/-- Whether all of a text is plain, and it ends in no word. -/
def isSealed (text : String) : Bool :=
  (lexemes text).all Lexeme.isPlain && (Scan.run (.code []) text.toList).2 == .code []

/-- Whether a text can follow any other, too. -/
def isApart (text : String) : Bool :=
  isSealed text && beginsApart text && text != ""

section

variable {first rest text : String}

theorem Sealed.quiet (closed : Sealed text) : Quiet text :=
  fun _ still => (closed still).sees

theorem Sealed.append (one : Sealed first) (other : Sealed rest) : Sealed (first ++ rest) :=
  fun _ still => (one still).append (other still)

theorem Sealed.append_quiet (one : Sealed first) (other : Quiet rest) : Quiet (first ++ rest) :=
  fun _ still => (one still).append_sees (other still)

theorem quiet_of_isQuiet (quiet : isQuiet text = true) : Quiet text := by
  intro s still
  obtain ⟨plain, ends⟩ := Bool.and_eq_true_iff.mp quiet
  refine ⟨lexemes text, ?_, Scopes.check_plain still.role (List.all_eq_true.mp plain)⟩
  split at ends
  · rename_i word behind
    exact ⟨_, word, Prod.ext rfl behind, by rw [lexemes, behind]; rfl⟩
  · cases ends

theorem sealed_of_isSealed (closed : isSealed text = true) : Sealed text := by
  intro s still
  obtain ⟨plain, ends⟩ := Bool.and_eq_true_iff.mp closed
  have behind := beq_iff_eq.mp ends
  refine ⟨lexemes text, ?_, Scopes.check_plain still.role (List.all_eq_true.mp plain)⟩
  exact Prod.ext (by simp [lexemes, behind, Scan.last, wordLexemes]) behind

theorem Sees.then {s s' : Scopes} (sees : Sees first s s') (still : s'.Still) (apart : isApart rest = true) :
    Reads (first ++ rest) s s' := by
  simp only [isApart, Bool.and_eq_true, bne_iff_ne] at apart
  obtain ⟨⟨closed, begins⟩, some_char⟩ := apart
  exact sees.append (sealed_of_isSealed closed still) begins some_char

theorem Quiet.then (quiet : Quiet first) (apart : isApart rest = true) : Sealed (first ++ rest) :=
  fun _ still => (quiet still).then still apart

theorem sealed_quote (text : String) : Sealed (Text.quote text) :=
  fun _ _ => ⟨[], closed_quote text, rfl⟩

theorem quiet_empty : Quiet "" :=
  quiet_of_isQuiet (by decide)

end

/-- The characters that make something of the words and marks around them. -/
def loudChars : List Char :=
  ['_', 'l', 'o', '"', ';', '\x7b', '\x7d']

/-- Characters that do not. -/
def Calm (chars : List Char) : Prop :=
  ∀ c ∈ chars, c ∉ loudChars

theorem mem_of_isTemporary {text : List Char} (temporary : isTemporary text = true) : '_' ∈ text := by
  unfold isTemporary at temporary
  split at temporary
  · exact List.mem_cons_self
  · cases temporary

theorem quiet_of_chars {text : String} (each : Calm text.toList) : Quiet text := by
  obtain ⟨found, lexes, among⟩ := lexes_over (P := (· ∉ loudChars)) fun c member =>
    ⟨each c member, fun quotes => each c member (by simp [loudChars, quotes])⟩
  refine fun s still => ⟨found, lexes, Scopes.check_plain still.role fun lexeme member => ?_⟩
  have chars := among lexeme member
  cases lexeme with
  | word text =>
      have without (c : Char) (loud : c ∈ loudChars) : c ∉ text := fun member => chars c member loud
      have other : isTemporary text = false :=
        Bool.eq_false_iff.mpr fun temporary => without '_' (by decide) (mem_of_isTemporary temporary)
      have noLet : text ≠ "let".toList := fun same => without 'l' (by decide) (by simp [same])
      have noFor : text ≠ "for".toList := fun same => without 'o' (by decide) (by simp [same])
      exact Lexeme.isPlain_word other noLet noFor
  | mark c =>
      have other : c ∉ loudChars := chars
      simp only [loudChars, List.mem_cons, not_or] at other
      simp [Lexeme.isPlain, other]

theorem calm_of_numerals {chars : List Char} (numerals : ∀ c ∈ chars, IsNumeral c) : Calm chars := by
  have apart : ∀ c ∈ loudChars, ¬IsNumeral c := by simp [loudChars, IsNumeral, numeralMarks]
  exact fun c member loud => apart c loud (numerals c member)

theorem quiet_commaSeparated {parts : List String} (each : ∀ part ∈ parts, Quiet part) : Quiet (commaSeparated parts) := by
  rw [commaSeparated]
  induction parts with
  | nil =>
      rw [String.intercalate_nil]
      exact quiet_empty
  | cons part parts ih =>
      obtain ⟨first, rest⟩ := List.forall_mem_cons.mp each
      cases parts with
      | nil =>
          rw [String.intercalate_singleton]
          exact first
      | cons next parts =>
          rw [String.intercalate_cons_cons]
          exact (first.then (by decide)).append_quiet (ih rest)

theorem quiet_truthText {text : String} (quiet : Quiet text) : Quiet (truthText text) := by
  have opened : Sealed "(" := sealed_of_isSealed (by decide)
  exact ((opened.append_quiet quiet).then (by decide)).quiet

theorem sealed_argumentText {parts : List String} (each : ∀ part ∈ parts, Quiet part) : Sealed (argumentText parts) := by
  have opened : Sealed "&[" := sealed_of_isSealed (by decide)
  exact (opened.append_quiet (quiet_commaSeparated each)).then (by decide)

/-- The walk inside braces that no loop begins. -/
def Scopes.entered (s : Scopes) : Scopes :=
  { s with current := {}, outer := s.current :: s.outer }

theorem quiet_choice {condition accepted rejected : String} (test : Quiet condition) (one : Quiet accepted)
    (other : Quiet rejected) :
    Quiet ("(if " ++ condition ++ " \x7b " ++ accepted ++ " \x7d else \x7b " ++ rejected ++ " \x7d)") := by
  intro s still
  obtain ⟨declared, ⟨names, bound, pattern⟩, outer, role⟩ := s
  obtain ⟨role, pattern⟩ := still
  dsimp only at role pattern
  subst role pattern
  generalize state : Scopes.mk declared ⟨names, bound, []⟩ outer .used = s
  have still : s.Still := state ▸ ⟨rfl, rfl⟩
  have inside : s.entered.Still := state ▸ ⟨rfl, rfl⟩
  have begun : Sealed "(if " := sealed_of_isSealed (by decide)
  have enters : Reads " \x7b " s s.entered := state ▸ ⟨[.mark '\x7b'], rfl, rfl⟩
  have changes : Reads " \x7d else \x7b " s.entered s.entered :=
    state ▸ ⟨[.mark '\x7d', .word "else".toList, .mark '\x7b'], rfl, rfl⟩
  have leaves : Reads " \x7d)" s.entered s := state ▸ ⟨[.mark '\x7d', .mark ')'], rfl, rfl⟩
  have tested := ((begun still).append_sees (test still)).append enters (by decide) (by decide)
  have first := (tested.append_sees (one inside)).append changes (by decide) (by decide)
  exact ((first.append_sees (other inside)).append leaves (by decide) (by decide)).sees

end Code

/-- The names of operations in a strategy. -/
def Strategy.operations : Strategy → List String
  | .binary operation => [operation]
  | .unary operation => [operation]
  | .test operation => [operation]
  | .negate positive => positive.operations
  | _ => []

/-- The paths in a way of calling. -/
def Invocation.paths : Invocation → List String
  | .simple target => [target]
  | _ => []

/-- Operations and paths of functions that are plain words. -/
structure Registries.Plain (r : Registries) : Prop where
  operations : ∀ definition ∈ r.operators.definitions, ∀ operation ∈ definition.strategy.operations,
    Code.isQuiet operation = true
  paths : ∀ function ∈ r.functions.functions, ∀ path ∈ function.invocation.paths, Code.isQuiet path = true

namespace Compile

open Code (Quiet Sealed quiet_of_isQuiet sealed_of_isSealed sealed_quote)

theorem scalar_quiet {value : Scalar} {line : Nat} {e : Code.Expr} (compiled : scalar value line = .ok e) : Quiet e.text := by
  have path : Quiet "Value" := quiet_of_isQuiet (by decide)
  cases value with
  | null =>
      cases compiled
      exact quiet_of_isQuiet (by decide)
  | bool b =>
      cases compiled
      cases b <;> exact quiet_of_isQuiet (by decide)
  | int n =>
      cases compiled
      have digits : Quiet (toString n.toInt) := Code.quiet_of_chars (Code.calm_of_numerals (isNumeral_int _))
      exact (((path.then (by decide)).append_quiet digits).then (by decide)).quiet
  | float x =>
      rw [scalar] at compiled
      split at compiled
      · cases compiled
        have digits : Quiet (Number.Layout.literal.write x) := Code.quiet_of_chars (Code.calm_of_numerals (Number.Layout.isNumeral_write _ x))
        exact (((path.then (by decide)).append_quiet digits).then (by decide)).quiet
      · cases compiled
  | string s =>
      cases compiled
      exact (((path.then (by decide)).append (sealed_quote s)).quiet.then (by decide)).quiet

section

variable {r : Registries} {e condition left right : Code.Expr} {operation : String} {args : List Code.Expr}

theorem unary_quiet (named : Code.isQuiet operation = true) (operand : Quiet e.text) :
    Quiet (Code.Expr.unary operation e).text := by
  have ops : Sealed "ops::" := sealed_of_isSealed (by decide)
  have applied : Sealed ("ops::" ++ operation ++ "(&") := (ops.append_quiet (quiet_of_isQuiet named)).then (by decide)
  exact ((applied.append_quiet operand).then (by decide)).quiet

theorem pair_quiet {front : String} (opened : Sealed front) (one : Quiet left.text) (other : Quiet right.text) :
    Quiet (front ++ left.text ++ ", &" ++ right.text ++ ")?") := by
  have first : Sealed (front ++ left.text ++ ", &") := (opened.append_quiet one).then (by decide)
  exact ((first.append_quiet other).then (by decide)).quiet

theorem binary_quiet (named : Code.isQuiet operation = true) (one : Quiet left.text) (other : Quiet right.text) :
    Quiet (Code.Expr.binary operation left right).text := by
  have ops : Sealed "ops::" := sealed_of_isSealed (by decide)
  have applied : Sealed ("ops::" ++ operation ++ "(&") := (ops.append_quiet (quiet_of_isQuiet named)).then (by decide)
  exact pair_quiet applied one other

theorem index_quiet (one : Quiet left.text) (other : Quiet right.text) : Quiet (Code.Expr.index left right).text :=
  pair_quiet (sealed_of_isSealed (by decide)) one other

theorem negation_quiet (operand : Quiet e.text) : Quiet (Code.Expr.negation e).text := by
  have opened : Sealed "Value::Bool(!" := sealed_of_isSealed (by decide)
  exact ((opened.append_quiet (Code.quiet_truthText operand)).then (by decide)).quiet

theorem both_quiet (one : Quiet left.text) (other : Quiet right.text) : Quiet (Code.Expr.both left right).text := by
  have opened : Sealed "Value::Bool(" := sealed_of_isSealed (by decide)
  have first : Sealed ("Value::Bool(" ++ Code.truthText left.text ++ " && ") :=
    (opened.append_quiet (Code.quiet_truthText one)).then (by decide)
  exact ((first.append_quiet (Code.quiet_truthText other)).then (by decide)).quiet

theorem either_quiet (one : Quiet left.text) (other : Quiet right.text) : Quiet (Code.Expr.either left right).text := by
  have opened : Sealed "Value::Bool(" := sealed_of_isSealed (by decide)
  have first : Sealed ("Value::Bool(" ++ Code.truthText left.text ++ " || ") :=
    (opened.append_quiet (Code.quiet_truthText one)).then (by decide)
  exact ((first.append_quiet (Code.quiet_truthText other)).then (by decide)).quiet

theorem bound_quiet (name : String) : Quiet (Code.Expr.bound name).text := by
  have opened : Sealed "Value::Bool(__ctx.contains(" := sealed_of_isSealed (by decide)
  exact ((opened.append (sealed_quote name)).quiet.then (by decide)).quiet

theorem variable_quiet (name : String) : Quiet (Code.Expr.variable name).text := by
  have opened : Sealed "__ctx.get(" := sealed_of_isSealed (by decide)
  exact ((opened.append (sealed_quote name)).quiet.then (by decide)).quiet

theorem strategy_quiet {operands : Operands} {chosen : Strategy} (known : ∀ operation ∈ chosen.operations, Code.isQuiet operation = true)
    (first : ∀ value, operands.left = .ok value → Quiet value.text)
    (second : ∀ value, operands.middle = .ok value → Quiet value.text)
    (third : ∀ value, operands.right = .ok value → Quiet value.text) (compiled : strategy operands chosen = .ok e) :
    Quiet e.text := by
  induction chosen generalizing e with
  | binary operation =>
      obtain ⟨left, leads, compiled⟩ := bind_eq_ok.mp compiled
      obtain ⟨right, follows, ⟨⟩⟩ := bind_eq_ok.mp compiled
      exact binary_quiet (known operation List.mem_cons_self) (first left leads) (third right follows)
  | unary operation =>
      obtain ⟨operand, follows, ⟨⟩⟩ := bind_eq_ok.mp compiled
      exact unary_quiet (known operation List.mem_cons_self) (third operand follows)
  | test operation =>
      obtain ⟨subject, leads, ⟨⟩⟩ := bind_eq_ok.mp compiled
      exact unary_quiet (known operation List.mem_cons_self) (first subject leads)
  | isSet =>
      rw [strategy] at compiled
      split at compiled
      · cases compiled
        exact bound_quiet _
      · obtain ⟨subject, leads, ⟨⟩⟩ := bind_eq_ok.mp compiled
        exact unary_quiet (by decide) (first subject leads)
  | both =>
      obtain ⟨left, leads, compiled⟩ := bind_eq_ok.mp compiled
      obtain ⟨right, follows, ⟨⟩⟩ := bind_eq_ok.mp compiled
      exact both_quiet (first left leads) (third right follows)
  | either =>
      obtain ⟨left, leads, compiled⟩ := bind_eq_ok.mp compiled
      obtain ⟨right, follows, ⟨⟩⟩ := bind_eq_ok.mp compiled
      exact either_quiet (first left leads) (third right follows)
  | negation =>
      obtain ⟨operand, follows, ⟨⟩⟩ := bind_eq_ok.mp compiled
      exact negation_quiet (third operand follows)
  | conditional =>
      obtain ⟨condition, leads, compiled⟩ := bind_eq_ok.mp compiled
      obtain ⟨accepted, between, compiled⟩ := bind_eq_ok.mp compiled
      obtain ⟨rejected, follows, ⟨⟩⟩ := bind_eq_ok.mp compiled
      exact Code.quiet_choice (Code.quiet_truthText (first condition leads)) (second accepted between) (third rejected follows)
  | negate positive ih =>
      obtain ⟨value, inner, ⟨⟩⟩ := bind_eq_ok.mp compiled
      exact negation_quiet (ih known inner)

/-- No local stands in the texts of the expressions, and nothing that declares one. -/
def QuietAll (values : List Code.Expr) : Prop :=
  ∀ value ∈ values, Quiet value.text

theorem QuietAll.texts {values : List Code.Expr} (each : QuietAll values) : ∀ part ∈ Code.Expr.texts values, Quiet part := by
  induction values with
  | nil => exact nofun
  | cons value values ih =>
      obtain ⟨first, rest⟩ := List.forall_mem_cons.mp each
      exact List.forall_mem_cons.mpr ⟨first, ih rest⟩

theorem called_quiet {front : String} (opened : Sealed front) (each : QuietAll args) :
    Quiet (front ++ Code.argumentText (Code.Expr.texts args) ++ ")?") :=
  ((opened.append (Code.sealed_argumentText each.texts)).quiet.then (by decide)).quiet

theorem call_quiet (plain : r.Plain) {callee : Callee} {line : Nat} (each : QuietAll args)
    (compiled : call r callee args line = .ok e) : Quiet e.text := by
  cases callee with
  | named name =>
      cases compiled
      have opened : Sealed "self.call_helper(__env, " := sealed_of_isSealed (by decide)
      have named : Sealed ("self.call_helper(__env, " ++ Text.quote name ++ ", ") :=
        (opened.append (sealed_quote name)).quiet.then (by decide)
      exact called_quiet named each
  | resolved id =>
      rw [call] at compiled
      split at compiled
      · cases compiled
      · rename_i function found
        have known := plain.paths function (List.mem_of_getElem? found)
        split at compiled
        · rename_i target invocation
          cases compiled
          rw [invocation] at known
          have path : Quiet target := quiet_of_isQuiet (known target List.mem_cons_self)
          exact called_quiet (path.then (by decide)) each
        · rename_i extension method _
          cases compiled
          have opened : Sealed "__env.extension(" := sealed_of_isSealed (by decide)
          have found : Sealed ("__env.extension(" ++ Text.quote extension ++ ")?.call(") :=
            (opened.append (sealed_quote extension)).quiet.then (by decide)
          have named : Sealed ("__env.extension(" ++ Text.quote extension ++ ")?.call(" ++ Text.quote method ++ ", ") :=
            (found.append (sealed_quote method)).quiet.then (by decide)
          exact called_quiet named each
        · rename_i binding _
          cases compiled
          have opened : Sealed "__env.invoke_callback(" := sealed_of_isSealed (by decide)
          have named : Sealed ("__env.invoke_callback(" ++ Text.quote binding ++ ", ") :=
            (opened.append (sealed_quote binding)).quiet.then (by decide)
          exact called_quiet named each

theorem list_quiet (each : QuietAll args) : Quiet (Code.Expr.list args).text := by
  have path : Quiet "Value" := quiet_of_isQuiet (by decide)
  exact (((path.then (by decide)).append_quiet (Code.quiet_commaSeparated each.texts)).then (by decide)).quiet

theorem callMethod_quiet (receiver : Quiet e.text) (name : String) (each : QuietAll args) :
    Quiet (Code.Expr.callMethod e name args).text := by
  have opened : Sealed "__env.call_method(&" := sealed_of_isSealed (by decide)
  have given : Sealed ("__env.call_method(&" ++ e.text ++ ", ") := (opened.append_quiet receiver).then (by decide)
  have named : Sealed ("__env.call_method(&" ++ e.text ++ ", " ++ Text.quote name ++ ", ") :=
    (given.append (sealed_quote name)).quiet.then (by decide)
  exact called_quiet named each

mutual

theorem expression_quiet (plain : r.Plain) {tree : Tree} {e : Code.Expr} (compiled : expression r tree = .ok e) :
    Quiet e.text := by
  cases tree with
  | data value line notes =>
      rw [expression] at compiled
      exact scalar_quiet compiled
  | list items line notes =>
      rw [expression] at compiled
      obtain ⟨values, one, ⟨⟩⟩ := bind_eq_ok.mp compiled
      exact list_quiet (expressions_quiet plain one)
  | «variable» name line notes =>
      cases compiled
      exact variable_quiet name
  | identifier name line notes =>
      cases compiled
      have spelled : scalar (.string name) line = .ok (.constant (.string name)) := rfl
      exact scalar_quiet spelled
  | index base key line notes =>
      rw [expression] at compiled
      obtain ⟨first, one, compiled⟩ := bind_eq_ok.mp compiled
      obtain ⟨second, two, ⟨⟩⟩ := bind_eq_ok.mp compiled
      exact index_quiet (expression_quiet plain one) (expression_quiet plain two)
  | operator id left middle right line notes =>
      rw [expression] at compiled
      cases known : r.operators.get? id with
      | none =>
          rw [known] at compiled
          cases compiled
      | some definition =>
          rw [known] at compiled
          exact strategy_quiet (plain.operations definition (List.mem_of_getElem? known)) (fun e one => operand_quiet plain one)
            (fun e one => operand_quiet plain one) (fun e one => operand_quiet plain one) compiled
  | call callee receiver args line notes =>
      cases receiver with
      | none =>
          rw [expression] at compiled
          obtain ⟨values, one, compiled⟩ := bind_eq_ok.mp compiled
          exact call_quiet plain (expressions_quiet plain one) compiled
      | some receiver =>
          rw [expression] at compiled
          obtain ⟨values, one, compiled⟩ := bind_eq_ok.mp compiled
          obtain ⟨base, two, compiled⟩ := bind_eq_ok.mp compiled
          obtain ⟨name, -, ⟨⟩⟩ := bind_eq_ok.mp compiled
          exact callMethod_quiet (expression_quiet plain two) name (expressions_quiet plain one)
  | root | block | tag | missing => simp only [expression, reduceCtorEq] at compiled
termination_by structural tree

theorem expressions_quiet (plain : r.Plain) {items : List Tree} {values : List Code.Expr}
    (compiled : expressions r items = .ok values) : QuietAll values := by
  cases items with
  | nil =>
      cases compiled
      exact nofun
  | cons item items =>
      rw [expressions] at compiled
      obtain ⟨first, one, compiled⟩ := bind_eq_ok.mp compiled
      obtain ⟨rest, two, ⟨⟩⟩ := bind_eq_ok.mp compiled
      exact List.forall_mem_cons.mpr ⟨expression_quiet plain one, expressions_quiet plain two⟩
termination_by structural items

theorem operand_quiet (plain : r.Plain) {operator : String} {slot : Slot} {line : Nat} {tree : Option Tree} {e : Code.Expr}
    (compiled : operand r operator slot line tree = .ok e) : Quiet e.text := by
  cases tree with
  | none => simp only [operand, reduceCtorEq] at compiled
  | some tree =>
      rw [operand] at compiled
      exact expression_quiet plain compiled
termination_by structural tree

end

end

end Compile

end Templating
