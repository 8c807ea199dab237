import DynamicValues.Number.Float64

/-!
# The general text form of a number

Fifteen significant digits of the exact value, ties to even. Numbers whose leading digit stands
between `10 ^ -4` and `10 ^ 14` are written out, others with an exponent of at least two digits.
Zeros at the end of a fraction are dropped. Zero of either sign is `0`.
-/

set_option autoImplicit false

namespace DynamicValues.Float64

/-- Drops zeros at the end of a text with a decimal point, then the point if it is left last. -/
def trimFraction (text : List Char) : List Char :=
  if text.contains '.' then
    ((text.reverse.dropWhile (· == '0')).dropWhile (· == '.')).reverse
  else text

/-- The decimal digits of a number. -/
def decimalDigits (n : Nat) : List Char := Nat.toDigits 10 n

/-- `n / 10 ^ places`, written out with that many places. -/
def fixedDigits (n places : Nat) : List Char :=
  if places = 0 then decimalDigits n
  else
    let fraction := decimalDigits (n % Nat.pow 10 places)
    decimalDigits (n / Nat.pow 10 places) ++ '.' :: List.replicate (places - fraction.length) '0'
      ++ fraction

/-- The nearest decimal with fifteen significant digits: the digits as a whole number and the
exponent of the first of them. -/
def fifteenDigits (num den : Nat) : Nat × Int :=
  let exponent := decimalExponent num den
  let digits :=
    roundDivEven (num * Nat.pow 10 (14 - exponent).toNat)
      (den * Nat.pow 10 (exponent - 14).toNat)
  if digits = Nat.pow 10 15 then (Nat.pow 10 14, exponent + 1) else (digits, exponent)

/-- The two or more digits of an exponent, after `e` and its sign. -/
def exponentText (exponent : Int) : List Char :=
  let digits := decimalDigits exponent.natAbs
  'e' :: (if exponent < 0 then '-' else '+')
    :: (if digits.length < 2 then '0' :: digits else digits)

/-- The general form of a positive number. -/
def positiveGeneral (num den : Nat) : List Char :=
  let rounded := fifteenDigits num den
  let digits := rounded.1
  let exponent := rounded.2
  if exponent < -4 ∨ 15 ≤ exponent then
    trimFraction (fixedDigits digits 14) ++ exponentText exponent
  else
    let places := (14 - exponent).toNat
    trimFraction (fixedDigits (roundDivEven (num * Nat.pow 10 places) den) places)

/-- The general text form. -/
def toGeneral (x : Float64) : String :=
  if x.isNaN then "NaN"
  else if x.isInfinite then if x.isNegative then "-Inf" else "Inf"
  else if x.isZero then "0"
  else
    let magnitude := positiveGeneral x.numerator x.denominator
    String.ofList (if x.isNegative then '-' :: magnitude else magnitude)

end DynamicValues.Float64
