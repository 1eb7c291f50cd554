import Mathlib.Logic.Relation
import Templating.Proofs.CoreExtension
import Templating.Proofs.PushedArguments
import Templating.Proofs.ReaderScripts
import Templating.Proofs.ReaderSteps

/-! # Readers get on

Whatever the tokens are, no call of a reader puts a token back, and a call that passes no token goes down in the order of the
readers. So what a reader calls in a row ends, a reader that is called again has passed a token in between, and eight units of
the budget for every token to come, with a few more, are enough for every call.
-/

namespace Templating.Parse

variable {α β : Type}

/-- A script asks only for calls of one sort and, given answers of one sort, comes to a result that is wanted. -/
def Script.Keeps (asks : Call → Prop) (gives : (call : Call) → call.Value × Cursor → Prop) (wanted : α → Prop) :
    Script α → Prop
  | .ended result => Comes result wanted
  | .ask call behind => asks call ∧ ∀ given, gives call given → (behind given).Keeps asks gives wanted

namespace Script.Keeps

variable {asks : Call → Prop} {gives : (call : Call) → call.Value × Cursor → Prop} {wanted : α → Prop}
  {script : Script α}

theorem bind {next : α → Script β} {goal : β → Prop} (first : script.Keeps asks gives wanted)
    (second : ∀ a, wanted a → (next a).Keeps asks gives goal) : (script >>= next).Keeps asks gives goal := by
  change (script.bind next).Keeps asks gives goal
  induction script with
  | ended result =>
      cases result with
      | ok a => exact second a first
      | error e => exact first
  | ask call behind ih => exact ⟨first.1, fun given answered => ih given (first.2 given answered)⟩

theorem step {result : Except ParseError α} {next : α → Script β} {goal : β → Prop} (first : Comes result wanted)
    (onward : ∀ a, wanted a → (next a).Keeps asks gives goal) : (liftM result >>= next).Keeps asks gives goal := by
  cases result with
  | ok a => exact onward a first
  | error e => exact first

theorem call {call : Call} {next : call.Value × Cursor → Script β} {goal : β → Prop} (fit : asks call)
    (onward : ∀ given, gives call given → (next given).Keeps asks gives goal) :
    (call.asked >>= next).Keeps asks gives goal :=
  ⟨fit, onward⟩

theorem last {call : Call} {goal : call.Value × Cursor → Prop} (fit : asks call)
    (implies : ∀ given, gives call given → goal given) : call.asked.Keeps asks gives goal :=
  ⟨fit, implies⟩

theorem failure {e : ParseError} (other : e.cause ≠ .exhausted) :
    (Script.ended (.error e) : Script α).Keeps asks gives wanted :=
  other

end Script.Keeps

/-- The place of a reader in the order in which readers call each other without passing a token. -/
def Reader.rank : Reader → Nat
  | climb | primary | trailers | tag | branches => 1
  | unary | body => 2
  | binary | block => 3
  | operands | items | expression | customBranches => 4
  | arguments | tagRest => 5

/-- Whether a reader passes some token whenever it gives something. -/
def Reader.takes : Reader → Bool
  | binary | unary | primary | arguments | expression | tag | branches | customBranches => true
  | climb | operands | trailers | items | body | block | tagRest => false

namespace Call

/-- A later call: no token is put back, and one has been passed, or the reader comes lower in the order. -/
def Before (call later : Call) : Prop :=
  call.cursor.Past later.cursor ∨ call.cursor.Behind later.cursor ∧ later.reader.rank < call.reader.rank

/-- What a call gives leaves a place behind, and past it if the reader always takes something. -/
def Gives (call : Call) (given : call.Value × Cursor) : Prop :=
  call.cursor.Behind given.2 ∧ (call.reader.takes = true → call.cursor.Past given.2)

variable {call later last : Call}

theorem Gives.of_past {given : call.Value × Cursor} (past : call.cursor.Past given.2) : call.Gives given :=
  ⟨past.1, fun _ => past⟩

theorem Gives.of_behind {given : call.Value × Cursor} (takes : call.reader.takes = false)
    (behind : call.cursor.Behind given.2) : call.Gives given :=
  ⟨behind, fun taken => absurd (takes.symm.trans taken) (by decide)⟩

theorem Before.behind (before : call.Before later) : call.cursor.Behind later.cursor :=
  before.elim And.left And.left

theorem Before.trans (first : call.Before later) (second : later.Before last) : call.Before last := by
  rcases first with past | ⟨behind, lower⟩
  · exact .inl (past.behind second.behind)
  · rcases second with past | ⟨further, lowest⟩
    · exact .inl (behind.past past)
    · exact .inr ⟨behind.trans further, lowest.trans lower⟩

/-- A bound on the budget that a call needs. -/
def measure (call : Call) : Nat :=
  8 * call.cursor.tokens.length + call.reader.rank

theorem Before.measure_lt (before : call.Before later) : later.measure < call.measure := by
  have low : later.reader.rank ≤ 5 := by cases later.reader <;> decide
  have positive : 1 ≤ call.reader.rank := by cases call.reader <;> decide
  unfold measure
  rcases before with ⟨-, shorter⟩ | ⟨behind, lower⟩
  · omega
  · have := behind.length_le
    omega

theorem Before.past (before : call.Before later) (again : later.reader = call.reader) :
    call.cursor.Past later.cursor := by
  rcases before with past | ⟨-, lower⟩
  · exact past
  · rw [again] at lower
    exact absurd lower (Nat.lt_irrefl _)

end Call

/-- A script of a call: it asks for later calls only, and gives what the call is to give. -/
def Script.Fits (call : Call) (script : Script (call.Value × Cursor)) : Prop :=
  script.Keeps call.Before Call.Gives call.Gives

section

variable {s : Setting} {c : Cursor}

open Cursor (Behind Past)

theorem binary_fits (least : UInt8) (c : Cursor) : (Script.binary least c).Fits (.binary least c) := by
  refine .call (.inr ⟨.refl c, Nat.lt_succ_self _⟩) ?_
  rintro ⟨left, d⟩ ⟨-, taken⟩
  have past := taken rfl
  exact .last (.inl past) fun _ answer => .of_past (past.behind answer.1)

theorem past_found (closed : c.Closed) {trie : AliasTrie} {found : OperatorRegistry.Found}
    (matched : s.registries.operators.resolve? (trie.longestMatch c.stream.remaining) = some found) :
    c.Past (c.skip found.length) := by
  obtain ⟨words, some_word, passes, -⟩ := passes_found closed matched
  exact passes.past some_word

theorem climb_fits (closed : c.Closed) (least : UInt8) (left : Tree) (earlier : Option (UInt8 × String)) :
    (Script.climb s least left earlier c).Fits (.climb least left earlier c) := by
  unfold Script.Fits Script.climb
  cases matched : s.registries.operators.binaryAt? c.stream.remaining with
  | none =>
      dsimp only
      split
      · exact .failure (by simp)
      · exact .of_behind rfl (.refl c)
  | some found =>
      have past := past_found closed matched
      dsimp only
      split
      · exact .of_behind rfl (.refl c)
      split
      · exact .failure (by simp)
      refine .call (.inl past) ?_
      rintro ⟨node, d⟩ ⟨behind, -⟩
      have onward := past.behind behind
      exact .last (.inl onward) fun _ answer => .of_past (onward.behind answer.1)

theorem operands_fits (closed : c.Closed) (found : OperatorRegistry.Found) (left : Tree) (line : Nat) :
    (Script.operands found left line c).Fits (.operands found left line c) := by
  unfold Script.Fits Script.operands
  have onto (least : UInt8) : (Call.operands found left line c).Before (.binary least c) :=
    .inr ⟨.refl c, Nat.lt_succ_self _⟩
  split
  · exact .call (onto _) fun _ answer => .of_behind rfl answer.1
  · exact .call (onto _) fun _ answer => .of_behind rfl answer.1
  · refine .call (onto _) ?_
    rintro ⟨middle, d⟩ ⟨behind, -⟩
    refine .step (comes_expect (behind.closed closed) (by decide) _) ?_
    rintro ⟨colon, e⟩ past
    have onward := behind.past past
    exact .call (.inl onward) fun _ answer => .of_past (onward.behind answer.1)
  · exact .of_behind rfl (.refl c)
  · exact .of_behind rfl (.refl c)

theorem unary_fits (closed : c.Closed) : (Script.unary s c).Fits (.unary c) := by
  unfold Script.Fits Script.unary
  cases matched : s.registries.operators.unaryAt? c.stream.remaining with
  | some found =>
      have past := past_found closed matched
      exact .call (.inl past) fun _ answer => .of_past (past.behind answer.1)
  | none =>
      refine .call (.inr ⟨.refl c, Nat.lt_succ_self _⟩) ?_
      rintro ⟨base, d⟩ ⟨-, taken⟩
      have past := taken rfl
      exact .last (.inl past) fun _ answer => .of_past (past.behind answer.1)

theorem primary_fits (closed : c.Closed) : (Script.primary s c).Fits (.primary c) := by
  unfold Script.Fits Script.primary
  have passing (inside : c.current.kind ≠ .eof) (value : Tree) : Call.Gives (.primary c) (value, c.next) :=
    .of_past (closed.past_next inside)
  dsimp only
  split
  · rename_i isLiteral
    exact .step (comes_literal _) fun _ _ => passing (isLiteral ▸ by decide) _
  split
  · rename_i isString
    exact passing (isString ▸ by decide) _
  split
  · rename_i name
    split
    · have past := (closed.past_next (isName_kind name)).behind (Cursor.behind_next _)
      exact .call (.inl past) fun _ answer => .of_past (past.behind answer.1)
    · exact passing (isName_kind name) _
  split
  · rename_i opens
    have past := closed.past_next (Token.ne_eof_of_isPunctuation opens)
    refine .call (.inl past) ?_
    rintro ⟨inner, d⟩ ⟨behind, -⟩
    have onward := past.behind behind
    exact .step (comes_bracket (onward.1.closed closed) _ _ _) fun e further => .of_past (onward.trans further)
  split
  · rename_i opens
    have past := closed.past_next (Token.ne_eof_of_isPunctuation opens)
    exact .call (.inl past) fun _ answer => .of_past (past.behind answer.1)
  · exact .failure (by simp)

theorem trailers_fits (closed : c.Closed) (base : Tree) : (Script.trailers s base c).Fits (.trailers base c) := by
  unfold Script.Fits Script.trailers
  -- Whatever stands behind the operand, the next trailers stand past it.
  have again {d : Cursor} (past : c.Past d) (next : Tree) :
      (Call.trailers next d).asked.Keeps (Call.Before (.trailers base c)) Call.Gives (Call.Gives (.trailers base c)) :=
    .last (.inl past) fun _ answer => .of_past (past.behind answer.1)
  dsimp only
  split
  · rename_i opens
    have past := closed.past_next (Token.ne_eof_of_isPunctuation opens)
    refine .call (.inl past) ?_
    rintro ⟨key, d⟩ ⟨behind, -⟩
    have onward := past.behind behind
    exact .step (comes_bracket (onward.1.closed closed) _ _ _) fun e further => again (onward.trans further) _
  split
  · rename_i dot
    have past := (closed.past_next (Token.ne_eof_of_isPunctuation dot)).behind (Cursor.behind_next _)
    split
    · split
      · have onward := past.behind (Cursor.behind_next _)
        exact .call (.inl onward) fun _ answer => again (onward.behind answer.1) _
      · exact again past _
    split
    · exact .step (comes_literal _) fun _ _ => again past _
    · exact .failure (by simp)
  · exact .of_behind rfl (.refl c)

theorem arguments_fits (closed : c.Closed) (label text : String) :
    (Script.arguments label text c).Fits (.arguments label text c) := by
  refine .call (.inr ⟨.refl c, Nat.lt_succ_self _⟩) ?_
  rintro ⟨items, d⟩ ⟨behind, -⟩
  have behind : c.Behind d := behind
  exact .step (comes_bracket (behind.closed closed) _ _ _) fun e past => .of_past (behind.past past)

theorem items_fits (closer : TokenPattern) (c : Cursor) : (Script.items closer c).Fits (.items closer c) := by
  unfold Script.Fits Script.items
  split
  · exact .of_behind rfl (.refl c)
  · refine .call (.inr ⟨.refl c, Nat.lt_succ_self _⟩) ?_
    rintro ⟨item, d⟩ ⟨-, taken⟩
    have past := taken rfl
    dsimp only
    split
    · have onward := past.behind (Cursor.behind_next _)
      exact .call (.inl onward) fun _ answer => .of_past (onward.behind answer.1)
    · exact .of_past past

theorem expression_fits (c : Cursor) : ((Call.expression c).script s).Fits (.expression c) :=
  .last (.inr ⟨.refl c, Nat.lt_succ_self _⟩) fun _ answer => .of_past (answer.2 rfl)

theorem expressionTag_keeps {call : Call} (closed : c.Closed) (before : call.Before (.expression c)) :
    (Script.expressionTag c).Keeps call.Before Call.Gives fun found => c.Past found.2 := by
  refine .call before ?_
  rintro ⟨value, d⟩ ⟨-, taken⟩
  have past : c.Past d := taken rfl
  exact .step (comes_tagEnd (past.1.closed closed)) fun last further => past.trans further

theorem output_keeps (closed : c.Closed) (isStart : c.current.kind = .expressionStart) :
    (Script.output s c).Keeps (Call.Before (.body c)) Call.Gives fun found => c.Past found.2 := by
  have past := closed.past_next (isStart ▸ by decide)
  refine .step (comes_printTag s _) fun id _ => .call (.inl past) ?_
  rintro ⟨value, d⟩ ⟨behind, -⟩
  have onward := past.behind behind
  refine .step (comes_close (onward.1.closed closed) ?_ _ _) fun e further => onward.trans further
  intro token accepted ending
  rw [TokenPattern.accepts, ending] at accepted
  cases accepted

theorem loopHeader_keeps {id line : Nat} {definition : TagDefinition} (closed : c.Closed) :
    (Script.loopHeader c).Keeps (Call.Before (.tagRest id definition line c)) Call.Gives fun found => c.Past found.2 := by
  unfold Script.loopHeader
  dsimp only
  have start : c.Behind (if c.current.isPunctuation "(" then c.next.enter .expression "(" c.current.line else c) := by
    split
    · exact c.behind_next
    · exact .refl c
  refine .step (comes_loopVariables (start.closed closed)) ?_
  rintro ⟨targets, d⟩ past
  have named := start.past past
  refine .step (comes_word (named.1.closed closed) "in") ?_
  rintro ⟨word, e⟩ past
  have onward := named.trans past
  refine .call (.inl onward) ?_
  rintro ⟨iterable, f⟩ ⟨behind, -⟩
  have valued := onward.behind behind
  have ending {g : Cursor} (past : c.Past g) : Comes (tagEnd g) fun found => c.Past found.2 :=
    (comes_tagEnd (past.1.closed closed)).mono fun _ further => past.trans further
  dsimp only
  split
  · refine .step (comes_bracket (valued.1.closed closed) _ _ _) fun g further => ?_
    exact .step (ending (valued.trans further)) fun _ past => past
  · change Script.Keeps _ _ _ (liftM (tagEnd f) >>= fun last => pure ((targets, iterable), last.2))
    exact .step (ending valued) fun _ past => past

theorem body_fits (closed : c.Closed) : (Script.body s c).Fits (.body c) := by
  unfold Script.Fits Script.body
  split
  · split
    · exact .failure (by simp)
    · exact .of_behind rfl (.refl c)
  · rename_i isText
    have past := closed.past_next (isText ▸ by decide)
    refine .step (comes_textNode s _) fun node _ => ?_
    exact .call (.inl past) fun _ answer => .of_past (past.behind answer.1)
  · rename_i isStart
    refine .bind (output_keeps closed isStart) fun found past => ?_
    exact .call (.inl past) fun _ answer => .of_past (past.behind answer.1)
  · dsimp only
    split
    · split
      · exact .of_behind rfl (.refl c)
      · rw [Setting.misplaced]
        split <;> exact .failure (by simp)
    · refine .call (.inr ⟨.refl c, Nat.lt_succ_self _⟩) fun found answer => ?_
      have past := answer.2 rfl
      exact .call (.inl past) fun _ answer => .of_past (past.behind answer.1)
  · exact .failure (by simp)

theorem block_fits (line : Nat) (c : Cursor) : (Script.block line c).Fits (.block line c) :=
  .call (.inr ⟨.refl c, Nat.lt_succ_self _⟩) fun _ answer => .of_behind rfl answer.1

theorem tag_fits (closed : c.Closed) : (Script.tag s c).Fits (.tag c) := by
  refine .step (comes_expect closed (by decide) none) ?_
  rintro ⟨start, d⟩ past
  refine .step (comes_resolveTag s d) ?_
  rintro ⟨id, e⟩ behind
  have onward := past.behind behind
  dsimp only
  split
  · exact .failure (by simp)
  split
  · exact .last (.inl onward) fun _ answer => .of_past (onward.behind answer.1)
  · exact .failure (by simp)

theorem registeredRest_keeps {id line : Nat} {definition : TagDefinition} {d : Cursor} (closed : c.Closed)
    (behind : c.Behind d) (values : List Tree) :
    (Script.registeredRest id definition line values d).Keeps (Call.Before (.tagRest id definition line c)) Call.Gives
      (Call.Gives (.tagRest id definition line c)) := by
  refine .step (comes_tagEnd (behind.closed closed)) ?_
  rintro ⟨last, e⟩ past
  have onward := behind.past past
  dsimp only
  split
  · exact .of_past onward
  · exact .call (.inl onward) fun _ answer => .of_past (onward.behind answer.1)

theorem tagRest_fits (closed : c.Closed) (id : Nat) (definition : TagDefinition) (line : Nat) :
    (Script.tagRest s id definition line c).Fits (.tagRest id definition line c) := by
  unfold Script.Fits Script.tagRest
  have value : (Call.tagRest id definition line c).Before (.expression c) := .inr ⟨.refl c, Nat.lt_succ_self _⟩
  split
  · exact .bind (expressionTag_keeps closed value) fun _ past => .of_past past
  · exact .bind (expressionTag_keeps closed value) fun _ past => .of_past past
  · refine .step (comes_name closed _) ?_
    rintro ⟨target, d⟩ past
    refine .step (comes_expect (past.1.closed closed) (by decide) _) ?_
    rintro ⟨sign, e⟩ further
    have onward := past.trans further
    refine .bind (expressionTag_keeps (onward.1.closed closed) (.inl onward)) fun _ further => ?_
    exact .of_past (onward.trans further)
  · refine .bind (expressionTag_keeps closed value) ?_
    rintro ⟨condition, d⟩ past
    refine .call (.inl past) ?_
    rintro ⟨first, e⟩ ⟨behind, -⟩
    have onward := past.behind behind
    exact .call (.inl onward) fun _ answer => .of_past (onward.behind answer.1)
  · refine .bind (loopHeader_keeps closed) ?_
    rintro ⟨header, d⟩ past
    refine .call (.inl past) ?_
    rintro ⟨first, e⟩ ⟨behind, -⟩
    have onward := past.behind behind
    exact .call (.inl onward) fun _ answer => .of_past (onward.behind answer.1)
  · refine .bind (expressionTag_keeps closed value) ?_
    rintro ⟨subject, d⟩ past
    refine .step (comes_firstBranch s line (past.1.closed closed)) fun e behind => ?_
    have onward := past.behind behind
    exact .call (.inl onward) fun _ answer => .of_past (onward.behind answer.1)
  · have start := c.behind_next
    refine .step (comes_tagEnd (start.closed closed)) ?_
    rintro ⟨last, d⟩ past
    have opened := start.past past
    refine .call (.inl opened) ?_
    rintro ⟨content, e⟩ ⟨behind, -⟩
    have filled := opened.behind behind
    refine .step (comes_branchKeyword (filled.1.closed closed)) ?_
    rintro ⟨keyword, f⟩ past
    have named := filled.trans past
    refine .step (comes_tagEnd (named.1.closed closed)) ?_
    rintro ⟨ending, g⟩ past
    have ended := named.trans past
    exact .step (comes_leave g _ _ _) fun h behind => .of_past (ended.behind behind)
  · dsimp only
    split
    · exact .call value fun _ answer => registeredRest_keeps closed answer.1 _
    · exact registeredRest_keeps closed (.refl c) _

theorem branches_fits (closed : c.Closed) (definition : TagDefinition) (words : BranchWords) (hasLast : Bool) :
    (Script.branches definition words hasLast c).Fits (.branches definition words hasLast c) := by
  refine .step (comes_branchKeyword closed) ?_
  rintro ⟨keyword, d⟩ past
  have inside := past.1.closed closed
  dsimp only
  split
  · refine .bind (expressionTag_keeps inside (.inl past)) ?_
    rintro ⟨value, e⟩ further
    have tested := past.trans further
    refine .call (.inl tested) ?_
    rintro ⟨content, f⟩ ⟨behind, -⟩
    have onward := tested.behind behind
    exact .call (.inl onward) fun _ answer => .of_past (onward.behind answer.1)
  split
  · refine .step (comes_tagEnd inside) ?_
    rintro ⟨last, e⟩ further
    have ended := past.trans further
    refine .call (.inl ended) ?_
    rintro ⟨content, f⟩ ⟨behind, -⟩
    have onward := ended.behind behind
    exact .call (.inl onward) fun _ answer => .of_past (onward.behind answer.1)
  split
  · refine .step (comes_tagEnd inside) ?_
    rintro ⟨last, e⟩ further
    have ended := past.trans further
    exact .step (comes_leave e _ _ _) fun f behind => .of_past (ended.behind behind)
  · exact .failure (by simp)

theorem customBranches_fits (closed : c.Closed) (definition : TagDefinition) (ending : String) (line : Nat) :
    (Script.customBranches definition ending line c).Fits (.customBranches definition ending line c) := by
  refine .call (.inr ⟨.refl c, Nat.lt_succ_self _⟩) ?_
  rintro ⟨content, d⟩ ⟨behind, -⟩
  refine .step (comes_branchKeyword (behind.closed closed)) ?_
  rintro ⟨keyword, e⟩ past
  have behind : c.Behind d := behind
  have past := behind.past past
  refine .step (comes_tagEnd (past.1.closed closed)) ?_
  rintro ⟨last, f⟩ further
  have onward := past.trans further
  dsimp only
  split
  · exact .step (comes_leave f _ _ _) fun g behind => .of_past (onward.behind behind)
  · exact .call (.inl onward) fun _ answer => .of_past (onward.behind answer.1)

end

/-- Whatever the tokens are, the script of a reader asks for later calls only and gives what the reader is to give. -/
theorem Call.script_fits (s : Setting) (call : Call) (closed : call.cursor.Closed) : (call.script s).Fits call := by
  cases call with
  | binary => exact binary_fits _ _
  | climb => exact climb_fits closed _ _ _
  | operands => exact operands_fits closed _ _ _
  | unary => exact unary_fits closed
  | primary => exact primary_fits closed
  | trailers => exact trailers_fits closed _
  | arguments => exact arguments_fits closed _ _
  | items => exact items_fits _ _
  | expression => exact expression_fits _
  | body => exact body_fits closed
  | block => exact block_fits _ _
  | tag => exact tag_fits closed
  | tagRest => exact tagRest_fits closed _ _ _
  | branches => exact branches_fits closed _ _ _
  | customBranches => exact customBranches_fits closed _ _ _

/-- A script comes to ask for a call, where calls give what their readers give with some budget. -/
inductive Script.Asks {α : Type} (s : Setting) : Script α → Call → Prop where
  | here {call : Call} {behind : call.Value × Cursor → Script α} : Asks s (.ask call behind) call
  | behind {call later : Call} {behind : call.Value × Cursor → Script α} {budget : Nat} {given : call.Value × Cursor}
      (answered : call.answer s budget = .ok given) (asks : Asks s (behind given) later) :
      Asks s (.ask call behind) later

/-- A call of a reader makes another call. -/
def Call.Makes (s : Setting) (call later : Call) : Prop :=
  (call.script s).Asks s later

namespace Script.Keeps

variable {s : Setting} {α : Type} {script : Script α} {asks : Call → Prop}
  {gives : (call : Call) → call.Value × Cursor → Prop} {wanted : α → Prop}
  {answer other : (call : Call) → Except ParseError (call.Value × Cursor)}

theorem comes (keeps : script.Keeps asks gives wanted) (answers : ∀ call, asks call → Comes (answer call) (gives call)) :
    Comes (script.run answer) wanted := by
  induction script with
  | ended result => exact keeps
  | ask call behind ih => exact (answers call keeps.1).bind fun given answered => ih given (keeps.2 given answered)

theorem run_eq (keeps : script.Keeps asks gives wanted) (answers : ∀ call, asks call → Comes (answer call) (gives call))
    (same : ∀ call, asks call → other call = answer call) : script.run other = script.run answer := by
  induction script with
  | ended result => rfl
  | ask call behind ih =>
      have answered := answers call keeps.1
      rw [Script.run, Script.run, same call keeps.1]
      cases result : answer call with
      | error e => rfl
      | ok given =>
          rw [result] at answered
          exact ih given (keeps.2 given answered)

theorem of_run_eq_ok (keeps : script.Keeps asks gives wanted)
    (answers : ∀ call, asks call → ∀ given, answer call = .ok given → gives call given) {a : α}
    (result : script.run answer = .ok a) : wanted a := by
  induction script with
  | ended last =>
      cases result
      exact keeps
  | ask call behind ih =>
      obtain ⟨given, answered, rest⟩ := bind_eq_ok.mp result
      exact ih given (keeps.2 given (answers call keeps.1 given answered)) rest

theorem asks_of_asks (keeps : script.Keeps asks gives wanted)
    (answers : ∀ call, asks call → ∀ budget given, call.answer s budget = .ok given → gives call given) {later : Call}
    (asked : script.Asks s later) : asks later := by
  induction asked with
  | here => exact keeps.1
  | behind answered _ ih => exact ih (keeps.2 _ (answers _ keeps.1 _ _ answered))

end Script.Keeps

namespace Call

variable {s : Setting} {call later : Call}

/-- What a call gives, it gives with every budget from its bound on. It does not fail for want of one. -/
structure Settled (s : Setting) (call : Call) : Prop where
  gives : ∀ budget given, call.answer s budget = .ok given → call.Gives given
  comes : ∀ budget, call.measure ≤ budget → Comes (call.answer s budget) call.Gives
  same : ∀ budget, call.measure ≤ budget → call.answer s budget = call.answer s call.measure

theorem answer_zero (within : call.reader ≠ .expression) : call.answer s 0 = .error call.cursor.exhausted := by
  cases call with
  | expression => exact absurd rfl within
  | body | block | tag | tagRest | branches | customBranches =>
      simp only [answer, cursor, Parse.body, Parse.block, Parse.tag, Parse.tagRest, Parse.branches, Parse.customBranches]
  | _ => rfl

theorem Settled.of_script (closed : call.cursor.Closed) (within : call.reader ≠ .expression)
    (others : ∀ later, call.Before later → Settled s later) : Settled s call := by
  have fits := call.script_fits s closed
  have positive : ∃ fewer, call.measure = fewer + 1 := by
    have := call.cursor.later_length
    exact ⟨call.measure - 1, by unfold measure; omega⟩
  obtain ⟨fewer, size⟩ := positive
  have answers {budget : Nat} (enough : fewer ≤ budget) (later : Call) (before : call.Before later) :
      later.measure ≤ budget := by
    have := before.measure_lt
    omega
  constructor
  · intro budget given result
    cases budget with
    | zero =>
        rw [answer_zero within] at result
        cases result
    | succ budget =>
        rw [← call.run_script within] at result
        exact fits.of_run_eq_ok (fun later before => (others later before).gives budget) result
  · intro budget enough
    obtain ⟨budget, rfl⟩ : ∃ rest, budget = rest + 1 := ⟨budget - 1, by omega⟩
    rw [← call.run_script within]
    exact fits.comes fun later before => (others later before).comes budget (answers (by omega) later before)
  · intro budget enough
    obtain ⟨budget, rfl⟩ : ∃ rest, budget = rest + 1 := ⟨budget - 1, by omega⟩
    rw [size, ← call.run_script within, ← call.run_script within]
    refine fits.run_eq (fun later before => (others later before).comes fewer (answers (by omega) later before)) ?_
    intro later before
    have settled := others later before
    rw [settled.same budget (answers (by omega) later before), settled.same fewer (answers (by omega) later before)]

/-- An expression in a template has a budget of its own, which is enough. -/
theorem Settled.expression {c : Cursor} (inner : Settled s (.binary 0 c)) : Settled s (.expression c) := by
  have enough : (binary 0 c).measure ≤ c.budget := by
    have := c.later_length
    unfold measure Cursor.budget
    change 8 * c.tokens.length + 3 ≤ _
    omega
  refine ⟨fun budget given result => ?_, fun budget _ => ?_, fun budget _ => rfl⟩
  · exact .of_past ((inner.gives c.budget given result).2 rfl)
  · exact (inner.comes c.budget enough).mono fun given answer => .of_past (answer.2 rfl)

/-- Whatever the tokens are, every call is settled. The induction is on the bound of its budget. -/
theorem settled (s : Setting) (call : Call) (closed : call.cursor.Closed) : Settled s call := by
  induction size : call.measure using Nat.strong_induction_on generalizing call with
  | _ _ ih =>
      subst size
      have others (later : Call) (before : call.Before later) : Settled s later :=
        ih _ before.measure_lt later (before.behind.closed closed) rfl
      by_cases within : call.reader = .expression
      · cases call with
        | expression c => exact .expression (others _ (.inr ⟨.refl c, Nat.lt_succ_self _⟩))
        | _ => cases within
      · exact .of_script closed within others

theorem before_of_makes (closed : call.cursor.Closed) (makes : call.Makes s later) : call.Before later := by
  refine (call.script_fits s closed).asks_of_asks (fun other before budget given answered => ?_) makes
  exact (settled s other (before.behind.closed closed)).gives budget given answered

open Relation (ReflTransGen TransGen)

theorem closed_of_makes (closed : call.cursor.Closed) (makes : call.Makes s later) : later.cursor.Closed :=
  (before_of_makes closed makes).behind.closed closed

theorem before_of_transGen (closed : call.cursor.Closed) (row : TransGen (Makes s) call later) : call.Before later := by
  induction row with
  | single makes => exact before_of_makes closed makes
  | tail _ makes before => exact before.trans (before_of_makes (before.behind.closed closed) makes)

theorem behind_of_reflTransGen (closed : call.cursor.Closed) (row : ReflTransGen (Makes s) call later) :
    call.cursor.Behind later.cursor := by
  rcases Relation.reflTransGen_iff_eq_or_transGen.mp row with rfl | row
  · exact .refl _
  · exact (before_of_transGen closed row).behind

theorem acc_makes (closed : call.cursor.Closed) : Acc (fun later call => Makes s call later) call := by
  induction size : call.measure using Nat.strong_induction_on generalizing call with
  | _ _ ih =>
      subst size
      refine .intro call fun later makes => ?_
      exact ih _ (before_of_makes closed makes).measure_lt (closed_of_makes closed makes) rfl

end Call

/-- Where the reading of a template starts. -/
def start (tokens : List Token) : Cursor :=
  Cursor.enter { stream := .ofTokens tokens } .text "template" 1

/-- Reads the tokens of a template with some budget. -/
def templateWithin (s : Setting) (budget : Nat) (tokens : List Token) : Except ParseError Tree := do
  let (children, c) ← body s budget (start tokens)
  let _ ← c.leave .text "template" c.current.line
  return .root children 1 {}

theorem template_eq (s : Setting) (tokens : List Token) :
    template s tokens = templateWithin s (start tokens).budget tokens :=
  rfl

theorem templateWithin_comes (s : Setting) (tokens : List Token) {budget : Nat} (enough : (start tokens).budget ≤ budget) :
    Comes (templateWithin s budget tokens) (fun _ => True) ∧ templateWithin s budget tokens = template s tokens := by
  have settled := Call.settled s (.body (start tokens)) (closed_stream tokens)
  have bound : (Call.body (start tokens)).measure ≤ (start tokens).budget := by
    have := (start tokens).later_length
    unfold Call.measure Cursor.budget
    change 8 * (start tokens).tokens.length + 2 ≤ _
    omega
  constructor
  · refine (settled.comes budget (bound.trans enough)).bind ?_
    rintro ⟨children, c⟩ -
    exact (comes_leave c _ _ _).bind fun _ _ => trivial
  · have same : body s budget (start tokens) = body s (start tokens).budget (start tokens) :=
      (settled.same budget (bound.trans enough)).trans (settled.same _ bound).symm
    rw [template_eq, templateWithin, same]
    rfl

open Relation (ReflTransGen TransGen)

/-- Whatever the tokens are: a reader follows its script with a unit of its budget, and an expression of a template with the
budget for the tokens to come. Wherever the calls come that reading a template makes, they put no token back, a reader is
called again only past some token, and no row of calls goes on for ever. Blanks in front of branches are passed token by
token, and a token that is put in front of arguments is passed before they are read. So no call depends on its budget, given
the bound for it, and neither does the template, which is read to the end or to a failure of its own. -/
theorem calls_get_on (s : Setting) (tokens : List Token) :
    (∀ budget (call : Call), call.reader ≠ .expression →
      (call.script s).run (Call.answer s budget) = call.answer s (budget + 1)) ∧
    (∀ budget c, ((Call.expression c).script s).run (Call.answer s c.budget) = (Call.expression c).answer s budget) ∧
    (∀ call, ReflTransGen (Call.Makes s) (.body (start tokens)) call →
      call.cursor.tokens <:+ TokenStream.closed tokens ∧
      (∀ later, TransGen (Call.Makes s) call later → later.reader = call.reader →
        later.cursor.tokens <:+ call.cursor.tokens ∧ later.cursor.tokens.length < call.cursor.tokens.length) ∧
      Acc (fun later call => Call.Makes s call later) call ∧
      ∀ budget, call.measure ≤ budget → call.answer s budget = call.answer s call.measure) ∧
    (∀ c : Cursor, c.Closed → (c.current.kind = .text → c.Past c.next) ∧
      ∀ count, c.tokens.length ≤ count → skipBlankText c count = skipBlankText c c.tokens.length) ∧
    (∀ budget label (c : Cursor),
      let closer := if label = "[" then closeBracket else closeParen
      let read := arguments s.registries (budget + 1) label closer c.afresh
      arguments s.registries (budget + 1) label closer c = readAfter c.stream.passed read ∧
        pushedArguments s.registries budget label c =
          readAfter (⟨.argumentListStart, label, c.current.line⟩ :: c.stream.passed) read) ∧
    (∀ budget, (start tokens).budget ≤ budget → templateWithin s budget tokens = template s tokens) ∧
    ∀ e, template s tokens = .error e → e.cause ≠ .exhausted := by
  refine ⟨fun budget call => call.run_script, fun _ => Call.run_expression, ?_, ?_, pushedArguments_eq s.registries,
    fun budget enough => (templateWithin_comes s tokens enough).2, ?_⟩
  · intro call row
    have closed : (Call.body (start tokens)).cursor.Closed := closed_stream tokens
    have behind := Call.behind_of_reflTransGen closed row
    have inside := behind.closed closed
    refine ⟨?_, fun later onward again => (Call.before_of_transGen inside onward).past again, Call.acc_makes inside,
      (Call.settled s call inside).same⟩
    rw [← tokens_ofTokens_eq]
    exact behind
  · intro c closed
    refine ⟨fun isText => closed.past_next (isText ▸ by decide), fun count enough => ?_⟩
    exact skipBlankText_eq closed enough (Nat.le_refl _)
  · intro e failed
    have comes := (templateWithin_comes s tokens (Nat.le_refl _)).1
    rw [← template_eq, failed] at comes
    exact comes

/-- Tokens that no source has: a bracket that is not closed, a token that stands for one, and no end. -/
def brokenTokens : List Token :=
  [⟨.expressionStart, "", 1⟩, ⟨.punctuation, "(", 1⟩, ⟨.argumentListStart, "(", 1⟩]

/-- Where the expression of `brokenTokens` starts. -/
def brokenStart : Cursor :=
  (start brokenTokens).next.enter .expression "\x7b\x7b" 1

/-- Where the expression in its bracket starts. -/
def brokenGroup : Cursor :=
  brokenStart.next.enter .expression "(" 1

theorem brokenTokens_calls :
    ReflTransGen (Call.Makes ⟨Core.registries, none⟩) (.body (start brokenTokens)) (.binary 0 brokenStart) ∧
      TransGen (Call.Makes ⟨Core.registries, none⟩) (.binary 0 brokenStart) (.binary 0 brokenGroup) ∧
      (Call.binary 0 brokenGroup).reader = (Call.binary 0 brokenStart).reader ∧
      brokenGroup.tokens.length < brokenStart.tokens.length := by
  have first : Call.Makes ⟨Core.registries, none⟩ (.body (start brokenTokens)) (.expression brokenStart) := .here
  have second : Call.Makes ⟨Core.registries, none⟩ (.expression brokenStart) (.binary 0 brokenStart) := .here
  have third : Call.Makes ⟨Core.registries, none⟩ (.binary 0 brokenStart) (.unary brokenStart) := .here
  have fourth : Call.Makes ⟨Core.registries, none⟩ (.unary brokenStart) (.primary brokenStart) := .here
  have fifth : Call.Makes ⟨Core.registries, none⟩ (.primary brokenStart) (.binary 0 brokenGroup) := .here
  have reached := (ReflTransGen.single first).tail second
  have again := ((TransGen.single third).tail fourth).tail fifth
  obtain ⟨-, -, calls, -⟩ := calls_get_on ⟨Core.registries, none⟩ brokenTokens
  obtain ⟨-, past, -⟩ := calls _ reached
  exact ⟨reached, again, rfl, (past _ again rfl).2⟩

end Templating.Parse
