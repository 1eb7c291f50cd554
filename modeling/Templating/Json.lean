import Templating.Value.Basic

/-! # JSON

The reader of JSON texts. Objects keep their pairs in the order of the text, so that a caller can tell a
repeated key; as a value the last of them counts. A number without a point and an exponent that fits 64
bits is a whole number, and as a value it stays one if it fits 64 bits with a sign; every other number is
read as its first digits, at most 64 bits of them, scaled once by a power of ten.
-/

namespace Templating

/-- A number of a JSON text. -/
inductive JsonNumber where
  /-- A whole number of 64 bits, not below zero. -/
  | natural (n : UInt64)
  /-- A whole number of 64 bits below zero. -/
  | negative (n : Int64)
  /-- Any other number. -/
  | float (x : Float)
deriving Repr

namespace JsonNumber

/-- A whole number as a signed number of 64 bits, if it is one. -/
def toInt? : JsonNumber → Option Int64
  | natural n => Number.narrow? (Int.ofNat n.toNat)
  | negative n => some n
  | float _ => none

/-- The nearest double. -/
def toFloat : JsonNumber → Float
  | natural n => Float.ofNat n.toNat
  | negative n => Number.floatOfWord n
  | float x => x

end JsonNumber

/-- A JSON text taken apart. -/
inductive Json where
  /-- `null`. -/
  | null
  /-- `true` or `false`. -/
  | bool (b : Bool)
  /-- A number. -/
  | number (n : JsonNumber)
  /-- A text. -/
  | string (s : String)
  /-- A sequence. -/
  | array (items : List Json)
  /-- Pairs, in the order of the text. -/
  | object (pairs : List (String × Json))
deriving Repr, Inhabited

namespace Json

mutual

/-- A JSON text as a value. -/
def toValue : Json → Value
  | null => .null
  | bool b => .bool b
  | number n =>
    match n.toInt? with
    | some i => .int i
    | none => .float n.toFloat
  | string s => .string s
  | array items => .list (toValues items)
  | object pairs => .ofPairs (toPairs pairs)

/-- The items of a sequence as values. -/
def toValues : List Json → List Value
  | [] => []
  | item :: rest => toValue item :: toValues rest

/-- The pairs of an object as values under keys. -/
def toPairs : List (String × Json) → List (String × Value)
  | [] => []
  | (key, item) :: rest => (key, toValue item) :: toPairs rest

end

/-- Drops the blanks that JSON has between its parts. -/
def skipBlanks (text : List Char) : List Char :=
  text.dropWhile fun c => c == ' ' || c == '\n' || c == '\t' || c == '\r'

/-- A number text taken apart. -/
structure Digits where
  /-- Whether a minus sign stands in front. -/
  negative : Bool
  /-- The digits before the point. -/
  whole : List Char
  /-- The digits behind the point, if there is one. -/
  fraction : Option (List Char)
  /-- The sign and the digits of the exponent, if there is one. -/
  exponent : Option (Bool × List Char)
deriving Repr

/-- Reads the digits behind the point of a number. -/
def readFraction? : List Char → Option (Option (List Char) × List Char)
  | '.' :: rest =>
    let digits := rest.takeWhile Char.isDigit
    if digits.isEmpty then none else some (some digits, rest.dropWhile Char.isDigit)
  | rest => some (none, rest)

/-- Reads the exponent of a number. -/
def readExponent? : List Char → Option (Option (Bool × List Char) × List Char)
  | [] => some (none, [])
  | c :: rest =>
    if c = 'e' ∨ c = 'E' then
      let signed :=
        match rest with
        | '-' :: rest => (true, rest)
        | '+' :: rest => (false, rest)
        | rest => (false, rest)
      let digits := signed.2.takeWhile Char.isDigit
      if digits.isEmpty then none
      else some (some (signed.1, digits), signed.2.dropWhile Char.isDigit)
    else some (none, c :: rest)

/-- Reads the parts of a number. A number of several digits does not start with zero. -/
def readDigits? (text : List Char) : Option (Digits × List Char) := do
  let (negative, text) :=
    match text with
    | '-' :: rest => (true, rest)
    | rest => (false, rest)
  let whole := text.takeWhile Char.isDigit
  let rest := text.dropWhile Char.isDigit
  if whole.isEmpty || (whole.head? == some '0' && 1 < whole.length) then none
  let (fraction, rest) ← readFraction? rest
  let (exponent, rest) ← readExponent? rest
  return (⟨negative, whole, fraction, exponent⟩, rest)

/-- The leading digits of a number that fit 64 bits, and how many digits are left over. -/
def leadingDigits (start : Nat) : List Char → Nat × Nat
  | [] => (start, 0)
  | c :: rest =>
    let next := start * 10 + (c.toNat - '0'.toNat)
    if Nat.pow 2 64 ≤ next then (start, rest.length + 1) else leadingDigits next rest

/-- A power of ten up to `10 ^ 308`. -/
def powerOfTen (exponent : Nat) : Float :=
  Float.ofScientific 1 false exponent

/-- Divides by powers of ten; `steps` bounds how many divisions by `10 ^ 308` come first. -/
def scaleDown (x : Float) (exponent : Nat) : Nat → Float
  | 0 => 0.0
  | steps + 1 =>
    if exponent ≤ 308 then x / powerOfTen exponent
    else if x == 0.0 then x
    else scaleDown (x / powerOfTen 308) (exponent - 308) steps

/-- The significant digits scaled by a power of ten. A number out of range is refused. -/
def scale? (significand : Nat) (exponent : Int) : Option Float :=
  let x := Float.ofNat significand
  if exponent < 0 then some (scaleDown x (-exponent).toNat 4)
  else if exponent ≤ 308 then
    let scaled := x * powerOfTen exponent.toNat
    if scaled.isInf then none else some scaled
  else if significand = 0 then some x
  else none

/-- The number that digits spell. -/
def Digits.toNumber? (d : Digits) : Option JsonNumber :=
  let signed (x : Float) : JsonNumber := .float (if d.negative then -x else x)
  let (front, dropped) := leadingDigits 0 d.whole
  match d.fraction, d.exponent with
  | none, none =>
    if dropped = 0 then
      if d.negative then
        if front = 0 then some (signed 0.0)
        else
          match Number.narrow? (-(Int.ofNat front)) with
          | some n => some (.negative n)
          | none => some (signed (Float.ofNat front))
      else some (.natural (UInt64.ofNat front))
    else (scale? front (Int.ofNat dropped)).map signed
  | fraction, exponent =>
    let behind := fraction.getD []
    let (significand, unread) := leadingDigits front behind
    let shift : Int := Int.ofNat dropped - Int.ofNat (behind.length - unread)
    match exponent with
    | none => (scale? significand shift).map signed
    | some (down, digits) =>
      let power := Number.DecimalText.valueOf digits
      if Nat.pow 2 31 ≤ power then (if significand = 0 ∨ down then some (signed 0.0) else none)
      else (scale? significand (if down then shift - Int.ofNat power else shift + Int.ofNat power)).map signed

/-- The code unit that four hexadecimal digits spell. -/
def readUnit? (text : List Char) : Option (Nat × List Char) :=
  let hex (c : Char) : Option Nat :=
    if c.isDigit then some (c.toNat - '0'.toNat)
    else if 'a' ≤ c ∧ c ≤ 'f' then some (c.toNat - 'a'.toNat + 10)
    else if 'A' ≤ c ∧ c ≤ 'F' then some (c.toNat - 'A'.toNat + 10)
    else none
  match text with
  | a :: b :: c :: d :: rest => do
    let a ← hex a
    let b ← hex b
    let c ← hex c
    let d ← hex d
    return (((a * 16 + b) * 16 + c) * 16 + d, rest)
  | _ => none

/-- Reads what stands behind a backslash. Two surrogates in a row are one character; one alone is
refused. -/
def readEscape? : List Char → Option (Char × List Char)
  | '"' :: rest => some ('"', rest)
  | '\\' :: rest => some ('\\', rest)
  | '/' :: rest => some ('/', rest)
  | 'b' :: rest => some ('\x08', rest)
  | 'f' :: rest => some ('\x0c', rest)
  | 'n' :: rest => some ('\n', rest)
  | 'r' :: rest => some ('\r', rest)
  | 't' :: rest => some ('\t', rest)
  | 'u' :: rest => do
    let (unit, rest) ← readUnit? rest
    if 0xDC00 ≤ unit ∧ unit < 0xE000 then none
    else if 0xD800 ≤ unit ∧ unit < 0xDC00 then
      match rest with
      | '\\' :: 'u' :: rest =>
        let (low, rest) ← readUnit? rest
        if 0xDC00 ≤ low ∧ low < 0xE000 then
          return (Char.ofNat (0x10000 + (unit - 0xD800) * 0x400 + (low - 0xDC00)), rest)
        else none
      | _ => none
    else return (Char.ofNat unit, rest)
  | _ => none

/-- Reads a text behind its opening quote; `fuel` exceeds the number of characters left. -/
def readText? : Nat → List Char → List Char → Option (String × List Char)
  | 0, _, _ => none
  | fuel + 1, done, text =>
    match text with
    | [] => none
    | '"' :: rest => some (String.ofList done.reverse, rest)
    | '\\' :: rest =>
      match readEscape? rest with
      | some (c, rest) => readText? fuel (c :: done) rest
      | none => none
    | c :: rest => if c.toNat < 0x20 then none else readText? fuel (c :: done) rest

mutual

/-- Reads one JSON value; `fuel` exceeds the number of characters left, and `depth` is how many containers
may still be opened. -/
def readValue? (fuel depth : Nat) (text : List Char) : Option (Json × List Char) :=
  match fuel with
  | 0 => none
  | fuel + 1 =>
    match skipBlanks text with
    | 'n' :: 'u' :: 'l' :: 'l' :: rest => some (null, rest)
    | 't' :: 'r' :: 'u' :: 'e' :: rest => some (bool true, rest)
    | 'f' :: 'a' :: 'l' :: 's' :: 'e' :: rest => some (bool false, rest)
    | '"' :: rest => (readText? fuel [] rest).map fun (s, rest) => (string s, rest)
    | '[' :: rest =>
      match depth with
      | 0 => none
      | depth + 1 =>
        match skipBlanks rest with
        | ']' :: rest => some (array [], rest)
        | rest => readItems? fuel depth [] rest
    | '\x7b' :: rest =>
      match depth with
      | 0 => none
      | depth + 1 =>
        match skipBlanks rest with
        | '\x7d' :: rest => some (object [], rest)
        | rest => readPairs? fuel depth [] rest
    | rest => do
      let (digits, rest) ← readDigits? rest
      let n ← digits.toNumber?
      return (number n, rest)

/-- Reads the items of a sequence up to its closing bracket. -/
def readItems? (fuel depth : Nat) (done : List Json) (text : List Char) : Option (Json × List Char) :=
  match fuel with
  | 0 => none
  | fuel + 1 => do
    let (item, rest) ← readValue? fuel depth text
    match skipBlanks rest with
    | ',' :: rest => readItems? fuel depth (item :: done) rest
    | ']' :: rest => return (array (item :: done).reverse, rest)
    | _ => none

/-- Reads the pairs of an object up to its closing brace. -/
def readPairs? (fuel depth : Nat) (done : List (String × Json)) (text : List Char) :
    Option (Json × List Char) :=
  match fuel with
  | 0 => none
  | fuel + 1 =>
    match skipBlanks text with
    | '"' :: rest => do
      let (key, rest) ← readText? fuel [] rest
      match skipBlanks rest with
      | ':' :: rest =>
        let (item, rest) ← readValue? fuel depth rest
        match skipBlanks rest with
        | ',' :: rest => readPairs? fuel depth ((key, item) :: done) rest
        | '\x7d' :: rest => return (object ((key, item) :: done).reverse, rest)
        | _ => none
      | _ => none
    | _ => none

end

/-- How many containers may be nested. -/
def depthLimit : Nat := 127

/-- Reads a JSON text. -/
def read? (text : String) : Option Json := do
  let characters := text.toList
  let (json, rest) ← readValue? (2 * characters.length + 2) depthLimit characters
  match skipBlanks rest with
  | [] => return json
  | _ => none

end Json

end Templating
