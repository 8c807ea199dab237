import DynamicValues.Number.Float64

/-!
# Numerals

A numeral is a text of one of the forms

    [+-]? ( D+ ( '.' D* )? | '.' D+ ) ( [eE] [+-]? D+ )?
    [+-]? ( infinity | inf | nan )      in any case

where `D` is an ASCII digit. `Numeral.read?` splits a text into the longest numeral that it starts
with and the rest. A text that is a numeral and nothing else can be read as a floating point number
(`Float64.ofText?`), and as a whole number of 64 bits if it is made of digits and fits
(`int64OfText?`).
-/

set_option autoImplicit false

namespace DynamicValues

/-- A numeral by its parts. -/
inductive Numeral where
  /-- `inf` or `infinity`. -/
  | infinity (negative : Bool)
  | nan (negative : Bool)
  /-- Digits alone. -/
  | whole (negative : Bool) (digits : List Char)
  /-- Digits with a point, an exponent or both. -/
  | decimal (negative : Bool) (digits fraction : List Char) (exponent : Int)
  deriving Repr, DecidableEq

namespace Numeral

/-- The value of decimal digits. -/
def digitsValue (digits : List Char) : Nat :=
  digits.foldl (fun n c => n * 10 + (c.toNat - '0'.toNat)) 0

/-- A value with its sign. -/
def signed (negative : Bool) (value : Nat) : Int := if negative then -value else value

/-- The leading digits of a text and the rest. -/
def splitDigits (text : List Char) : List Char × List Char :=
  (text.takeWhile Char.isDigit, text.dropWhile Char.isDigit)

/-- A sign, if the text starts with one: whether it is negative, and the rest. -/
def splitSign : List Char → Bool × List Char
  | '+' :: rest => (false, rest)
  | '-' :: rest => (true, rest)
  | text => (false, text)

/-- What is left after a word in any case; the word is given in lower case. -/
def dropWord? : (word text : List Char) → Option (List Char)
  | [], text => some text
  | _ :: _, [] => none
  | w :: word, c :: text => if c.toLower = w then dropWord? word text else none

/-- `inf`, `infinity` or `nan` and the rest. -/
def readWord? (negative : Bool) (text : List Char) : Option (Numeral × List Char) :=
  match dropWord? "infinity".toList text with
  | some rest => some (.infinity negative, rest)
  | none =>
    match dropWord? "inf".toList text with
    | some rest => some (.infinity negative, rest)
    | none => (dropWord? "nan".toList text).map fun rest => (.nan negative, rest)

/-- An exponent with at least one digit, and the rest. -/
def readExponent? : List Char → Option (Int × List Char)
  | c :: rest =>
    if c = 'e' ∨ c = 'E' then
      let (negative, rest) := splitSign rest
      let (digits, rest) := splitDigits rest
      if digits.isEmpty then none else some (signed negative (digitsValue digits), rest)
    else none
  | [] => none

/-- The fraction after a point, if there is a point with a digit on either side of it. -/
def readFraction? (digits : List Char) : List Char → Option (List Char × List Char)
  | '.' :: rest =>
    let (fraction, rest) := splitDigits rest
    if digits.isEmpty && fraction.isEmpty then none else some (fraction, rest)
  | _ => none

/-- Digits, the fraction if there is a point, and the rest. -/
def readMantissa? (text : List Char) : Option (List Char × Option (List Char) × List Char) :=
  let (digits, rest) := splitDigits text
  match readFraction? digits rest with
  | some (fraction, rest) => some (digits, some fraction, rest)
  | none => if digits.isEmpty then none else some (digits, none, rest)

/-- A numeral of digits and the rest. -/
def readDigits? (negative : Bool) (text : List Char) : Option (Numeral × List Char) :=
  (readMantissa? text).map fun (digits, fraction, rest) =>
    match readExponent? rest, fraction with
    | some (exponent, rest), _ => (.decimal negative digits (fraction.getD []) exponent, rest)
    | none, some fraction => (.decimal negative digits fraction 0, rest)
    | none, none => (.whole negative digits, rest)

/-- The longest numeral at the start of a text, and the rest. -/
def read? (text : List Char) : Option (Numeral × List Char) :=
  let (negative, rest) := splitSign text
  match readWord? negative rest with
  | some found => some found
  | none => readDigits? negative rest

/-- The numeral that a text is. -/
def ofText? (text : String) : Option Numeral :=
  match read? text.toList with
  | some (numeral, []) => some numeral
  | _ => none

/-- The floating point number nearest to a numeral. -/
def toFloat : Numeral → Float64
  | infinity negative => .infinity negative
  | nan negative => if negative then Float64.nan.negate else .nan
  | whole negative digits => .ofDecimal negative (digitsValue digits) digits.length 0
  | decimal negative digits fraction exponent =>
    let all := digits ++ fraction
    .ofDecimal negative (digitsValue all) all.length (exponent - fraction.length)

/-- The whole number that digits stand for, if it fits 64 bits. -/
def toInt64? : Numeral → Option Int64
  | whole negative digits =>
    let value := signed negative (digitsValue digits)
    if Int64.minValue.toInt ≤ value ∧ value ≤ Int64.maxValue.toInt then some (.ofInt value)
    else none
  | _ => none

end Numeral

/-- A text as a floating point number. -/
def Float64.ofText? (text : String) : Option Float64 := (Numeral.ofText? text).map Numeral.toFloat

/-- A text as a whole number of 64 bits. -/
def int64OfText? (text : String) : Option Int64 := (Numeral.ofText? text).bind Numeral.toInt64?

end DynamicValues
