import DynamicValues.Number.Rounding

/-!
# Binary floating point

A `Float64` is a 64-bit pattern: a sign bit, eleven exponent bits and 52 fraction bits. A finite one
stands for exactly `± significand * 2 ^ exponent`, and all arithmetic here is on those whole
numbers, so nothing is lost before the one rounding that a result needs.
-/

set_option autoImplicit false

namespace DynamicValues

/-- A binary floating point number by its bits. -/
structure Float64 where
  bits : UInt64
  deriving Repr, DecidableEq, Inhabited

namespace Float64

/-! ## Fields -/

/-- The sign bit. -/
def isNegative (x : Float64) : Bool := x.bits.toNat / Nat.pow 2 63 == 1

def exponentField (x : Float64) : Nat := x.bits.toNat / Nat.pow 2 52 % Nat.pow 2 11

def fraction (x : Float64) : Nat := x.bits.toNat % Nat.pow 2 52

def isNaN (x : Float64) : Bool := x.exponentField == 2047 && x.fraction != 0

def isInfinite (x : Float64) : Bool := x.exponentField == 2047 && x.fraction == 0

/-- Zero of either sign. -/
def isZero (x : Float64) : Bool := x.exponentField == 0 && x.fraction == 0

/-- The whole number that the fraction stands for, the leading bit included. -/
def significand (x : Float64) : Nat :=
  if x.exponentField = 0 then x.fraction else Nat.pow 2 52 + x.fraction

/-- The power of two that the significand is counted in. -/
def exponent (x : Float64) : Int := (max x.exponentField 1 : Nat) - 1075

/-- The numerator of the magnitude of a finite number. -/
def numerator (x : Float64) : Nat := x.significand * Nat.pow 2 x.exponent.toNat

/-- The denominator of the magnitude of a finite number. -/
def denominator (x : Float64) : Nat := Nat.pow 2 (-x.exponent).toNat

/-! ## Making numbers -/

/-- The bits of infinity without the sign. -/
def infinityBits : Nat := 2047 * Nat.pow 2 52

def ofFields (negative : Bool) (magnitude : Nat) : Float64 :=
  ⟨UInt64.ofNat ((if negative then Nat.pow 2 63 else 0) + magnitude)⟩

def infinity (negative : Bool) : Float64 := ofFields negative infinityBits

def nan : Float64 := ofFields false (infinityBits + Nat.pow 2 51)

def zero (negative : Bool) : Float64 := ofFields negative 0

/-- The number with the other sign. -/
def negate (x : Float64) : Float64 := ⟨x.bits ^^^ UInt64.ofNat (Nat.pow 2 63)⟩

/-- The bits, without the sign, of the number nearest to `num / den`; ties go to the even
significand. What is too large becomes infinity, what is too small zero. A significand that rounds
up to `2 ^ 53` carries into the exponent. -/
def nearestBits (num den : Nat) : Nat :=
  if num = 0 then 0
  else
    let unit := max (binaryExponent num den - 52) (-1074)
    let significand := roundDivEven (num * Nat.pow 2 (-unit).toNat) (den * Nat.pow 2 unit.toNat)
    min ((unit + 1074).toNat * Nat.pow 2 52 + significand) infinityBits

/-- The number nearest to `± num / den`. -/
def ofRatio (negative : Bool) (num den : Nat) : Float64 := ofFields negative (nearestBits num den)

/-- The number nearest to a whole number. -/
def ofInt (n : Int) : Float64 := ofRatio (n < 0) n.natAbs 1

/-- The number nearest to `± coefficient * 10 ^ exponent`. `digits` bounds the decimal length of the
coefficient and serves to settle the hopelessly large and small cases without a long computation. -/
def ofDecimal (negative : Bool) (coefficient digits : Nat) (exponent : Int) : Float64 :=
  if coefficient = 0 then zero negative
  else if exponent > 400 then infinity negative
  else if exponent + digits < -400 then zero negative
  else ofRatio negative (coefficient * Nat.pow 10 exponent.toNat) (Nat.pow 10 (-exponent).toNat)

/-! ## Using numbers -/

/-- Numeric equality: the two zeros are equal and NaN equals nothing. -/
def numEq (x y : Float64) : Bool :=
  !x.isNaN && !y.isNaN && (x.bits == y.bits || (x.isZero && y.isZero))

/-- The whole part of a number, toward zero. -/
def truncate (x : Float64) : Int :=
  let magnitude : Nat := x.numerator / x.denominator
  if x.isNegative then -magnitude else magnitude

/-- A whole number limited to the range of 64 bits. -/
def clampInt64 (n : Int) : Int64 :=
  Int64.ofInt (max Int64.minValue.toInt (min n Int64.maxValue.toInt))

/-- The whole part limited to the range of 64 bits; NaN becomes 0. -/
def toInt64 (x : Float64) : Int64 := if x.isNaN then 0 else clampInt64 x.truncate

end Float64

end DynamicValues
