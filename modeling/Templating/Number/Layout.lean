import Templating.Number.Shortest

/-! # Floating-point numbers as text

The shortest digits of a double, laid out in one of two ways: as a literal that always looks like a
floating-point number, and as plain text that never has an exponent. Beside them stands the reader.
-/

namespace Templating.Number

/-- How the digits of a double are laid out. -/
structure Layout where
  /-- Whether a number with this power of ten in front is written without an exponent. -/
  positional : Int → Bool
  /-- Whether a whole number ends in `.0`. -/
  keepsPoint : Bool

namespace Layout

/-- Zeros, as many as asked for. -/
def zeros (count : Nat) : List Char :=
  List.replicate count '0'

/-- Digits without an exponent: `digits * 10 ^ exponent`. -/
def placeDigits (layout : Layout) (digits : List Char) (exponent : Int) : List Char :=
  if 0 ≤ exponent then
    digits ++ zeros exponent.toNat ++ (if layout.keepsPoint then ['.', '0'] else [])
  else
    let places := (-exponent).toNat
    if places < digits.length then
      digits.take (digits.length - places) ++ '.' :: digits.drop (digits.length - places)
    else '0' :: '.' :: zeros (places - digits.length) ++ digits

/-- Digits with an exponent: one digit before the point. -/
def scaleDigits (digits : List Char) (exponent : Int) : List Char :=
  let power := exponent + Int.ofNat digits.length - 1
  let mantissa :=
    match digits with
    | [] => ['0']
    | [d] => [d]
    | d :: rest => d :: '.' :: rest
  mantissa ++ 'e' :: (toString power).toList

/-- The text of a double. -/
def write (layout : Layout) (x : Float) : String :=
  match Binary64.ofFloat x with
  | .nan => "NaN"
  | .infinite negative => if negative then "-inf" else "inf"
  | .finite negative mantissa exponent =>
    let body :=
      if mantissa = 0 then layout.placeDigits ['0'] 0
      else
        let d := shortest mantissa exponent
        let digits := Nat.toDigits 10 d.digits
        if layout.positional (d.exponent + Int.ofNat digits.length - 1) then
          layout.placeDigits digits d.exponent
        else scaleDigits digits d.exponent
    String.ofList (if negative then '-' :: body else body)

/-- A literal shows a point or an exponent; the exponent appears from `10 ^ 16` on and below `10 ^ -4`. -/
def literal : Layout :=
  ⟨fun power => decide (-4 ≤ power) && decide (power < 16), true⟩

/-- Plain text never has an exponent, and a whole number has no point. -/
def plain : Layout :=
  ⟨fun _ => true, false⟩

end Layout

/-- A decimal text taken apart: the digits around the point and the exponent. -/
structure DecimalText where
  /-- The digits before the point. -/
  whole : List Char
  /-- The digits after the point. -/
  fraction : List Char
  /-- The power of ten. -/
  exponent : Int
deriving Repr, DecidableEq, BEq

namespace DecimalText

/-- The number that decimal digits spell. -/
def valueOf (digits : List Char) : Nat :=
  digits.foldl (fun value c => value * 10 + (c.toNat - '0'.toNat)) 0

/-- Reads the exponent behind the digits of a number. -/
def readExponent? : List Char → Option Int
  | [] => some 0
  | e :: rest =>
    if e = 'e' ∨ e = 'E' then
      let signed :=
        match rest with
        | '-' :: digits => (true, digits)
        | '+' :: digits => (false, digits)
        | digits => (false, digits)
      if signed.2.isEmpty || !signed.2.all Char.isDigit then none
      else some (if signed.1 then -(Int.ofNat (valueOf signed.2)) else Int.ofNat (valueOf signed.2))
    else none

/-- Reads digits, a point and an exponent. There is a digit before or after the point. -/
def read? (text : List Char) : Option DecimalText :=
  let whole := text.takeWhile Char.isDigit
  let behind := text.dropWhile Char.isDigit
  let split :=
    match behind with
    | '.' :: rest => (rest.takeWhile Char.isDigit, rest.dropWhile Char.isDigit)
    | rest => ([], rest)
  if whole.isEmpty && split.1.isEmpty then none
  else (readExponent? split.2).map fun exponent => ⟨whole, split.1, exponent⟩

/-- The double nearest to a decimal. Powers of ten far outside the range of doubles give zero and
infinity. -/
def toFloat (d : DecimalText) : Float :=
  let digits := valueOf (d.whole ++ d.fraction)
  let exponent := d.exponent - Int.ofNat d.fraction.length
  let power := exponent + Int.ofNat (digitCount digits)
  if digits = 0 ∨ power < -400 then 0.0
  else if 400 < power then 1.0 / 0.0
  else if 0 ≤ exponent then Float.ofScientific digits false exponent.toNat
  else Float.ofScientific digits true (-exponent).toNat

end DecimalText

/-- Reads a double: an optional sign, then a decimal or one of the words for infinity and not a number,
in letters of either case. -/
def readFloat? (text : List Char) : Option Float :=
  let signed :=
    match text with
    | '-' :: rest => (true, rest)
    | '+' :: rest => (false, rest)
    | rest => (false, rest)
  let size :=
    match DecimalText.read? signed.2 with
    | some d => some d.toFloat
    | none =>
      let word := String.ofList (signed.2.map Char.toLower)
      if word = "inf" ∨ word = "infinity" then some (1.0 / 0.0)
      else if word = "nan" then some (0.0 / 0.0)
      else none
  size.map fun x => if signed.1 then -x else x

end Templating.Number
