import Templating.Pattern.Basic
import Templating.Text.Letter

/-! # Reading patterns

The written form of patterns: alternatives, groups with flags, repetitions, bracketed sets of characters
and escapes. Look-around and back references are refused.
-/

namespace Templating

namespace Pattern

/-- Why a text is no pattern. -/
inductive Fault where
  /-- A group is not closed. -/
  | unclosedGroup
  /-- A closing parenthesis closes nothing. -/
  | unopenedGroup
  /-- A group has a missing, malformed or repeated name. -/
  | groupName
  /-- Groups are nested too deeply. -/
  | nesting
  /-- A repetition has nothing to repeat. -/
  | nothingToRepeat
  /-- The bounds of a repetition are malformed or in the wrong order. -/
  | repetitionBounds
  /-- A set of characters is not closed. -/
  | unclosedSet
  /-- A range of characters is malformed or in the wrong order. -/
  | setRange
  /-- An escape is unknown or malformed. -/
  | escape
  /-- A reference to an earlier group. -/
  | backReference
  /-- A condition on the text around. -/
  | lookAround
  /-- A flag is unknown, repeated or missing. -/
  | flag
  /-- A named class of characters is unknown. -/
  | unknownClass
  /-- The pattern is too large. -/
  | tooLarge
deriving Repr, DecidableEq, BEq

/-- The message of a fault. -/
def Fault.message : Fault → String
  | unclosedGroup => "unclosed group"
  | unopenedGroup => "unopened group"
  | groupName => "invalid capture group name"
  | nesting => "exceeded the maximum number of nested parentheses/brackets"
  | nothingToRepeat => "repetition operator missing expression"
  | repetitionBounds => "invalid repetition count range"
  | unclosedSet => "unclosed character class"
  | setRange => "invalid character class range"
  | escape => "unrecognized escape sequence"
  | backReference => "backreferences are not supported"
  | lookAround => "look-around, including look-ahead and look-behind, is not supported"
  | flag => "unrecognized flag"
  | unknownClass => "Unicode property not found"
  | tooLarge => "Compiled regex exceeds size limit of 10485760 bytes."

/-- The flags in force at a place of a pattern. -/
structure Flags where
  /-- Letters match in either case. -/
  ignoresCase : Bool := false
  /-- `^` and `$` match at lines. -/
  perLine : Bool := false
  /-- `.` matches a line feed too. -/
  dotAll : Bool := false
  /-- Carriage returns end lines too. -/
  returns : Bool := false
  /-- Blanks and comments are skipped. -/
  verbose : Bool := false
deriving Repr, DecidableEq, BEq

namespace Flags

/-- Sets the flag with the given letter. -/
def set (flags : Flags) (letter : Char) (on : Bool) : Option Flags :=
  match letter with
  | 'i' => some { flags with ignoresCase := on }
  | 'm' => some { flags with perLine := on }
  | 's' => some { flags with dotAll := on }
  | 'R' => some { flags with returns := on }
  | 'x' => some { flags with verbose := on }
  | 'U' => some flags
  | 'u' => some flags
  | _ => none

/-- The set of characters that `set` stands for under the flags. -/
def apply (flags : Flags) (set : CharSet) : CharSet :=
  if flags.ignoresCase then .folded set else set

/-- What `.` matches. -/
def dot (flags : Flags) : CharSet :=
  if flags.dotAll then .all
  else if flags.returns then .complement (.union (.single '\n') (.single '\r'))
  else .complement (.single '\n')

/-- What `^` asserts. -/
def caret (flags : Flags) : Assertion :=
  if flags.perLine then (if flags.returns then .returnLineStart else .lineStart) else .textStart

/-- What `$` asserts. -/
def dollar (flags : Flags) : Assertion :=
  if flags.perLine then (if flags.returns then .returnLineEnd else .lineEnd) else .textEnd

end Flags

/-- The union of several sets. -/
def unionOf : List CharSet → CharSet
  | [] => .none
  | [set] => set
  | set :: rest => .union set (unionOf rest)

/-- The classes of ASCII characters that stand between `[:` and `:]`. -/
def asciiClass? (name : String) : Option CharSet :=
  let lower : CharSet := .range 'a' 'z'
  let upper : CharSet := .range 'A' 'Z'
  let digit : CharSet := .range '0' '9'
  match name with
  | "alnum" => some (unionOf [digit, upper, lower])
  | "alpha" => some (.union upper lower)
  | "ascii" => some (.range '\x00' '\x7f')
  | "blank" => some (.union (.single '\t') (.single ' '))
  | "cntrl" => some (.union (.range '\x00' '\x1f') (.single '\x7f'))
  | "digit" => some digit
  | "graph" => some (.range '!' '~')
  | "lower" => some lower
  | "print" => some (.range ' ' '~')
  | "punct" =>
    some (unionOf [.range '!' '/', .range ':' '@', .range '[' (Char.ofNat 0x60), .range '\x7b' '~'])
  | "space" => some (.union (.range '\t' '\r') (.single ' '))
  | "upper" => some upper
  | "word" => some (unionOf [digit, upper, lower, .single '_'])
  | "xdigit" => some (unionOf [digit, .range 'A' 'F', .range 'a' 'f'])
  | _ => none

/-- The classes that one letter after a backslash names. -/
def letterClass? (letter : Char) : Option CharSet :=
  match letter with
  | 'd' => some (.table digitRanges)
  | 'D' => some (.complement (.table digitRanges))
  | 's' => some (.table Text.blankRanges)
  | 'S' => some (.complement (.table Text.blankRanges))
  | 'w' => some (.table wordRanges)
  | 'W' => some (.complement (.table wordRanges))
  | _ => none

/-- The named classes of characters that `\p` takes. -/
def namedClass? (name : String) : Option CharSet :=
  let plain := String.ofList ((name.toList.filter fun c => c != '_' && c != '-' && c != ' ').map Char.toLower)
  match plain with
  | "any" => some .all
  | "alphabetic" | "alpha" => some (.table Text.letterRanges)
  | "whitespace" | "wspace" | "space" => some (.table Text.blankRanges)
  | "nd" | "decimalnumber" | "digit" => some (.table digitRanges)
  | "n" | "number" => some (.table Text.numberRanges)
  | "cased" => some (.table Text.casedRanges)
  | "caseignorable" | "ci" => some (.table Text.caseIgnorableRanges)
  | _ => none

/-- What an escape or a plain character stands for. -/
inductive Atom where
  /-- One character. -/
  | char (c : Char)
  /-- A class of characters. -/
  | class (set : CharSet)
  /-- A condition. -/
  | condition (assertion : Assertion)
deriving Repr, Inhabited

/-- The value of a hexadecimal digit. -/
def hexDigit? (c : Char) : Option Nat :=
  if '0' ≤ c ∧ c ≤ '9' then some (c.toNat - '0'.toNat)
  else if 'a' ≤ c ∧ c ≤ 'f' then some (c.toNat - 'a'.toNat + 10)
  else if 'A' ≤ c ∧ c ≤ 'F' then some (c.toNat - 'A'.toNat + 10)
  else none

/-- The character whose code point is spelled by hexadecimal digits. -/
def hexChar? (digits : List Char) : Option Char :=
  if digits.isEmpty then none
  else
    (digits.mapM hexDigit?).bind fun values =>
      let code := values.foldl (fun value digit => value * 16 + digit) 0
      if code.isValidChar then some (Char.ofNat code) else none

/-- Reads a code point of `width` digits, or of any number of digits in braces. -/
def readHex (width : Nat) (text : List Char) : Except Fault (Atom × List Char) :=
  match text with
  | '\x7b' :: rest =>
    match rest.dropWhile (· != '\x7d'), hexChar? (rest.takeWhile (· != '\x7d')) with
    | _ :: behind, some c => .ok (.char c, behind)
    | _, _ => .error .escape
  | _ =>
    match hexChar? (text.take width) with
    | some c => if text.length < width then .error .escape else .ok (.char c, text.drop width)
    | none => .error .escape

/-- Reads the name of a class after `\p`; `negated` tells `\P`. -/
def readNamed (negated : Bool) (text : List Char) : Except Fault (Atom × List Char) :=
  let answer (name : List Char) (rest : List Char) : Except Fault (Atom × List Char) :=
    let flipped := name.head? == some '^'
    match namedClass? (String.ofList (if flipped then name.drop 1 else name)) with
    | some set => .ok (.class (if negated != flipped then .complement set else set), rest)
    | none => .error .unknownClass
  match text with
  | [] => .error .escape
  | '\x7b' :: rest =>
    match rest.dropWhile (· != '\x7d') with
    | [] => .error .escape
    | _ :: behind => answer (rest.takeWhile (· != '\x7d')) behind
  | c :: rest => answer [c] rest

/-- Reads what may follow `\b`: a more exact kind of boundary in braces. -/
def readBoundary (text : List Char) : Except Fault (Atom × List Char) :=
  let isNameChar (c : Char) : Bool := c.isAlpha || c == '-'
  match text with
  | '\x7b' :: rest =>
    match rest with
    | [] => .error .escape
    | c :: _ =>
      if isNameChar c then
        match rest.dropWhile isNameChar, String.ofList (rest.takeWhile isNameChar) with
        | '\x7d' :: behind, "start" => .ok (.condition .wordStart, behind)
        | '\x7d' :: behind, "end" => .ok (.condition .wordEnd, behind)
        | '\x7d' :: behind, "start-half" => .ok (.condition .wordStartHalf, behind)
        | '\x7d' :: behind, "end-half" => .ok (.condition .wordEndHalf, behind)
        | _, _ => .error .escape
      else .ok (.condition .wordBoundary, text)
  | _ => .ok (.condition .wordBoundary, text)

/-- Reads what stands behind a backslash. -/
def readEscape : List Char → Except Fault (Atom × List Char)
  | [] => .error .escape
  | c :: rest =>
    if c.isDigit then .error .backReference
    else
      match letterClass? c with
      | some set => .ok (.class set, rest)
      | none =>
        match c with
        | 'x' => readHex 2 rest
        | 'u' => readHex 4 rest
        | 'U' => readHex 8 rest
        | 'p' => readNamed false rest
        | 'P' => readNamed true rest
        | 'a' => .ok (.char '\x07', rest)
        | 'f' => .ok (.char '\x0c', rest)
        | 't' => .ok (.char '\t', rest)
        | 'n' => .ok (.char '\n', rest)
        | 'r' => .ok (.char '\r', rest)
        | 'v' => .ok (.char '\x0b', rest)
        | 'A' => .ok (.condition .textStart, rest)
        | 'z' => .ok (.condition .textEnd, rest)
        | 'b' => readBoundary rest
        | 'B' => .ok (.condition .noWordBoundary, rest)
        | '<' => .ok (.condition .wordStart, rest)
        | '>' => .ok (.condition .wordEnd, rest)
        | _ => if c.toNat < 128 && !c.isAlphanum then .ok (.char c, rest) else .error .escape

/-- Drops the blanks and comments that verbose patterns may have anywhere. -/
def skipVerbose (flags : Flags) : List Char → List Char
  | [] => []
  | c :: rest =>
    if !flags.verbose then c :: rest
    else if Text.isBlank c then skipVerbose flags rest
    else if c = '#' then skipComment flags rest
    else c :: rest
where
  /-- Drops the rest of a comment. -/
  skipComment (flags : Flags) : List Char → List Char
    | [] => []
    | c :: rest => if c = '\n' then skipVerbose flags rest else skipComment flags rest

/-- How two sets between brackets are joined. -/
inductive Joint where
  /-- The characters of both. -/
  | intersection
  /-- The characters of the first only. -/
  | difference
  /-- The characters of one only. -/
  | symmetric
deriving Repr, DecidableEq, BEq

/-- Joins two sets. -/
def Joint.join (joint : Joint) (left right : CharSet) : CharSet :=
  match joint with
  | .intersection => .intersection left right
  | .difference => .intersection left (.complement right)
  | .symmetric =>
    .union (.intersection left (.complement right)) (.intersection right (.complement left))

/-- The set that is left of a joint and waits for its right side. -/
abbrev Pending := Option (Joint × CharSet)

/-- The pending set joined with the set on its right. -/
def Pending.finish (pending : Pending) (set : CharSet) : CharSet :=
  match pending with
  | none => set
  | some (joint, left) => joint.join left set

/-- Reads one character or escape between brackets. -/
def readSetAtom : List Char → Except Fault (Atom × List Char)
  | [] => .error .unclosedSet
  | '\\' :: rest => readEscape rest
  | c :: rest => .ok (.char c, rest)

/-- Reads one character, class or range between brackets. -/
def readSetRange (flags : Flags) (text : List Char) : Except Fault (CharSet × List Char) := do
  let (first, rest) ← readSetAtom text
  let rest := skipVerbose flags rest
  let alone : Except Fault (CharSet × List Char) :=
    match first with
    | .char c => .ok (flags.apply (.single c), rest)
    | .class set => .ok (flags.apply set, rest)
    | .condition _ => .error .escape
  match rest with
  | [] => .error .unclosedSet
  | '-' :: behind =>
    match skipVerbose flags behind with
    | [] => .error .unclosedSet
    | ']' :: _ => alone
    | '-' :: _ => alone
    | behind =>
      let (last, rest) ← readSetAtom behind
      match first, last with
      | .char a, .char b =>
        if a.toNat ≤ b.toNat then .ok (flags.apply (.range a b), rest) else .error .setRange
      | _, _ => .error .setRange
  | _ => alone

/-- Reads the name of an ASCII class after `[:`. -/
def readAsciiClass? (text : List Char) : Option (CharSet × List Char) :=
  let negated := text.head? == some '^'
  let text := if negated then text.drop 1 else text
  match text.dropWhile (· != ':'), asciiClass? (String.ofList (text.takeWhile (· != ':'))) with
  | ':' :: ']' :: rest, some set => some (if negated then .complement set else set, rest)
  | _, _ => none

mutual

/-- Reads a set behind its opening bracket. `fuel` is at least the number of characters left. -/
def readSet (flags : Flags) (fuel : Nat) (text : List Char) : Except Fault (CharSet × List Char) :=
  match fuel with
  | 0 => .error .unclosedSet
  | fuel + 1 => do
    let text := skipVerbose flags text
    let negated := text.head? == some '^'
    let text := if negated then skipVerbose flags (text.drop 1) else text
    let dashes := text.takeWhile (· == '-')
    let rest := text.dropWhile (· == '-')
    let start :=
      if dashes.isEmpty then
        match rest with
        | ']' :: rest => (flags.apply (.single ']'), rest)
        | rest => (CharSet.none, rest)
      else (flags.apply (.single '-'), rest)
    let (set, rest) ← readSetItems flags fuel none start.1 start.2
    return (if negated then .complement set else set, rest)

/-- Reads the items of a set up to its closing bracket. -/
def readSetItems (flags : Flags) (fuel : Nat) (pending : Pending) (set : CharSet) (text : List Char) :
    Except Fault (CharSet × List Char) :=
  match fuel with
  | 0 => .error .unclosedSet
  | fuel + 1 =>
    match skipVerbose flags text with
    | [] => .error .unclosedSet
    | ']' :: rest => .ok (pending.finish set, rest)
    | '[' :: rest =>
      match (if rest.head? == some ':' then readAsciiClass? (rest.drop 1) else none) with
      | some (named, behind) => readSetItems flags fuel pending (.union set (flags.apply named)) behind
      | none => do
        let (inner, behind) ← readSet flags fuel rest
        readSetItems flags fuel pending (.union set inner) behind
    | '&' :: '&' :: rest => readSetItems flags fuel (some (.intersection, pending.finish set)) .none rest
    | '-' :: '-' :: rest => readSetItems flags fuel (some (.difference, pending.finish set)) .none rest
    | '~' :: '~' :: rest => readSetItems flags fuel (some (.symmetric, pending.finish set)) .none rest
    | text => do
      let (item, rest) ← readSetRange flags text
      readSetItems flags fuel pending (.union set item) rest

end

/-- Reads the bounds of a repetition behind its opening brace. -/
def readBounds (text : List Char) : Except Fault ((Nat × Option Nat) × List Char) :=
  let number (text : List Char) : Except Fault (Nat × List Char) :=
    let text := Text.trimStart text
    let digits := text.takeWhile Char.isDigit
    let value := digits.foldl (fun value c => value * 10 + (c.toNat - '0'.toNat)) 0
    if digits.isEmpty || Nat.pow 2 32 ≤ value then .error .repetitionBounds
    else .ok (value, Text.trimStart (text.dropWhile Char.isDigit))
  do
    let (least, rest) ← number text
    match rest with
    | '\x7d' :: behind => return ((least, some least), behind)
    | ',' :: '\x7d' :: behind => return ((least, none), behind)
    | ',' :: rest =>
      let (most, rest) ← number rest
      match rest with
      | '\x7d' :: behind =>
        if least ≤ most then return ((least, some most), behind) else .error .repetitionBounds
      | _ => .error .repetitionBounds
    | _ => .error .repetitionBounds

/-- Reads the flags of a group up to the colon or parenthesis behind them. -/
def readFlags (flags : Flags) (seen : List Char) (off : Bool) : List Char → Except Fault (Flags × List Char)
  | [] => .error .flag
  | c :: rest =>
    if c = ':' ∨ c = ')' then
      if off && seen.head? == some '-' then .error .flag else .ok (flags, c :: rest)
    else if c = '-' then
      if off then .error .flag else readFlags flags ('-' :: seen) true rest
    else if seen.contains c then .error .flag
    else
      match flags.set c (!off) with
      | some flags => readFlags flags (c :: seen) off rest
      | none => .error .flag

/-- Reads the name of a group up to the angle bracket behind it. -/
def readGroupName (names : List String) (text : List Char) : Except Fault (String × List Char) :=
  let name := text.takeWhile (· != '>')
  let later (c : Char) : Bool := c == '_' || c == '.' || c == '[' || c == ']' || Text.isLetterOrNumber c
  match name, text.dropWhile (· != '>') with
  | first :: more, _ :: rest =>
    if (first == '_' || Text.isLetter first) && more.all later && !names.contains (String.ofList name) then
      .ok (String.ofList name, rest)
    else .error .groupName
  | _, _ => .error .groupName

/-- How a group starts. -/
inductive Opening where
  /-- A group that holds a pattern, under flags of its own. -/
  | group (flags : Flags) (names : List String)
  /-- Flags for the rest of the group around. -/
  | setFlags (flags : Flags)
deriving Repr

/-- Reads the start of a group behind its opening parenthesis. -/
def readOpening (flags : Flags) (names : List String) (text : List Char) :
    Except Fault (Opening × List Char) :=
  match text with
  | '?' :: '=' :: _ => .error .lookAround
  | '?' :: '!' :: _ => .error .lookAround
  | '?' :: '<' :: '=' :: _ => .error .lookAround
  | '?' :: '<' :: '!' :: _ => .error .lookAround
  | '?' :: 'P' :: '<' :: rest => do
    let (name, rest) ← readGroupName names rest
    return (.group flags (name :: names), rest)
  | '?' :: '<' :: rest => do
    let (name, rest) ← readGroupName names rest
    return (.group flags (name :: names), rest)
  | '?' :: rest => do
    let (inner, behind) ← readFlags flags [] false rest
    match behind with
    | ':' :: behind => return (.group inner names, behind)
    | _ :: behind =>
      if rest.head? == some ')' then .error .nothingToRepeat else return (.setFlags inner, behind)
    | [] => .error .unclosedGroup
  | text => .ok (.group flags names, text)

/-- The expressions of a list one after the other. The list has the last one first. -/
def sequence (items : List (Option Expr)) : Expr :=
  (items.filterMap id).foldl (fun behind item => .seq item behind) .empty

/-- What is read of a group: alternatives, and the items of the last one with the last item first. An item
without an expression set flags. -/
structure Progress where
  /-- The alternatives that are complete. -/
  alternatives : Option Expr := none
  /-- The items of the alternative being read. -/
  items : List (Option Expr) := []
  /-- The names of the groups so far. -/
  names : List String := []
deriving Repr, Inhabited

namespace Progress

/-- Adds an item. -/
def push (progress : Progress) (item : Option Expr) : Progress :=
  { progress with items := item :: progress.items }

/-- The expression read so far. -/
def finish (progress : Progress) : Expr :=
  match progress.alternatives with
  | none => sequence progress.items
  | some left => .alt left (sequence progress.items)

/-- Whether there is an expression to repeat. -/
def canRepeat (progress : Progress) : Bool :=
  match progress.items with
  | some _ :: _ => true
  | _ => false

/-- Repeats the last item. -/
def repeatLast (progress : Progress) (least : Nat) (most : Option Nat) : Except Fault Progress :=
  match progress.items with
  | some item :: before => .ok { progress with items := some (.repeated item least most) :: before }
  | _ => .error .nothingToRepeat

end Progress

/-- Drops the mark of a repetition that prefers few rounds; it changes no answer. -/
def skipLazy : List Char → List Char
  | '?' :: rest => rest
  | rest => rest

/-- Reads a group up to its closing parenthesis, which stays unread, or the end. `fuel` exceeds the number
of characters left and `depth` is how many groups may still be opened. -/
def readGroup (fuel depth : Nat) (flags : Flags) (progress : Progress) (text : List Char) :
    Except Fault (Progress × List Char) :=
  match fuel with
  | 0 => .error .tooLarge
  | fuel + 1 =>
    match skipVerbose flags text with
    | [] => .ok (progress, [])
    | c :: rest =>
      match c with
      | ')' => .ok (progress, c :: rest)
      | '|' =>
        readGroup fuel depth flags { progress with alternatives := some progress.finish, items := [] } rest
      | '(' => do
        let (opening, rest) ← readOpening flags progress.names rest
        match opening with
        | .setFlags flags => readGroup fuel depth flags (progress.push none) rest
        | .group inner names =>
          match depth with
          | 0 => .error .nesting
          | depth + 1 =>
            let (group, rest) ← readGroup fuel depth inner { names := names } rest
            match rest with
            | ')' :: rest =>
              let progress := { progress.push (some group.finish) with names := group.names }
              readGroup fuel (depth + 1) flags progress rest
            | _ => .error .unclosedGroup
      | '?' => do readGroup fuel depth flags (← progress.repeatLast 0 (some 1)) (skipLazy rest)
      | '*' => do readGroup fuel depth flags (← progress.repeatLast 0 none) (skipLazy rest)
      | '+' => do readGroup fuel depth flags (← progress.repeatLast 1 none) (skipLazy rest)
      | '\x7b' => do
        let ((least, most), rest) ← if progress.canRepeat then readBounds rest else .error .nothingToRepeat
        readGroup fuel depth flags (← progress.repeatLast least most) (skipLazy rest)
      | '[' => do
        let (set, rest) ← readSet flags (rest.length + 1) rest
        readGroup fuel depth flags (progress.push (some (.one set))) rest
      | '.' => readGroup fuel depth flags (progress.push (some (.one flags.dot))) rest
      | '^' => readGroup fuel depth flags (progress.push (some (.assert flags.caret))) rest
      | '$' => readGroup fuel depth flags (progress.push (some (.assert flags.dollar))) rest
      | '\\' => do
        let (atom, rest) ← readEscape rest
        let item : Expr :=
          match atom with
          | .char c => .one (flags.apply (.single c))
          | .class set => .one (flags.apply set)
          | .condition assertion => .assert assertion
        readGroup fuel depth flags (progress.push (some item)) rest
      | c => readGroup fuel depth flags (progress.push (some (.one (flags.apply (.single c))))) rest

/-- The number of characters that a written-out pattern may have. -/
def sizeLimit : Nat := 327680

/-- The number of groups that may be nested. -/
def depthLimit : Nat := 250

/-- Reads a pattern. -/
def read (text : String) : Except Fault Expr := do
  let characters := text.toList
  let (progress, rest) ← readGroup (characters.length + 1) depthLimit {} {} characters
  match rest with
  | [] => if sizeLimit < progress.finish.size then .error .tooLarge else .ok progress.finish
  | _ => .error .unopenedGroup

/-- Whether the pattern written `pattern` matches somewhere in `text`. -/
def search (pattern text : String) : Except Fault Bool :=
  (read pattern).map fun expr => expr.occursIn text.toList

end Pattern

/-- An engine that searches texts for patterns. -/
structure PatternEngine where
  /-- Whether a pattern matches somewhere in a text, or why it is no pattern. -/
  search : String → String → Except String Bool

/-- The engine for the patterns that are read here. -/
def PatternEngine.standard : PatternEngine where
  search pattern text := (Pattern.search pattern text).mapError Pattern.Fault.message

end Templating
