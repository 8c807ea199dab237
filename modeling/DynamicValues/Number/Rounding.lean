/-!
# Rounding quotients and counting digits

Reading and writing numbers both come down to rounding a quotient of natural numbers to a whole
number. Ties go to the even neighbour.

Powers are written `Nat.pow b n` here and below: which power `b ^ n` is depends on what a module
imports.
-/

set_option autoImplicit false

namespace DynamicValues

/-- The whole number nearest to `num / den`; halfway between two, the even one. -/
def roundDivEven (num den : Nat) : Nat :=
  let quotient := num / den
  let rest := num % den
  if 2 * rest < den ∨ (2 * rest = den ∧ quotient % 2 = 0) then quotient else quotient + 1

/-- How many decimal digits a number has; 0 has one. -/
def decimalLength (n : Nat) : Nat := if n < 10 then 1 else decimalLength (n / 10) + 1
termination_by n

/-- The exponent of the leading decimal digit of `num / den`, which must be positive and at least
`10 ^ -330`. -/
def decimalExponent (num den : Nat) : Int :=
  (decimalLength (num * Nat.pow 10 330 / den) : Int) - 331

/-- The exponent of the leading binary digit of `num / den`, both positive. -/
def binaryExponent (num den : Nat) : Int :=
  let guess := (Nat.log2 num : Int) - Nat.log2 den
  if den * Nat.pow 2 guess.toNat ≤ num * Nat.pow 2 (-guess).toNat then guess else guess - 1

end DynamicValues
