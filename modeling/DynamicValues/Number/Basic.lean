import DynamicValues.Number.Float64

/-!
# Numbers

What a value is worth as a number: a whole number of 64 bits where its content is one, otherwise a
floating point number.
-/

set_option autoImplicit false

namespace DynamicValues

/-- A number. -/
inductive Number where
  | int (n : Int64)
  | float (x : Float64)
  deriving Repr, DecidableEq, Inhabited

namespace Number

/-- The number as a floating point number, rounded if need be. -/
def toFloat : Number → Float64
  | int n => .ofInt n.toInt
  | float x => x

/-- The number as a whole number, toward zero and limited to 64 bits. -/
def toInt64 : Number → Int64
  | int n => n
  | float x => x.toInt64

/-- Exactly zero, of either sign. NaN is not zero. -/
def isZero : Number → Bool
  | int n => n == 0
  | float x => x.isZero

end Number

end DynamicValues
