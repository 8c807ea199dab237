import DynamicValues.Number.General

/-!
# The shortest text form of a number

The fewest digits that read back as the same number, and of those the nearest to it, written out
without an exponent. A tie goes up. This form serves for inspection only.
-/

set_option autoImplicit false

namespace DynamicValues.Float64

/-- The reals that round to a number, times four and in units of its last bit: the distance down
and up from four times the significand. Just above a power of two the numbers below are twice as
close. -/
def roundingGap (x : Float64) : Nat × Nat :=
  if x.fraction = 0 ∧ 1 < x.exponentField then (1, 2) else (2, 2)

/-- Whether `candidate / scale` rounds to `x`, where both are positive. The ends of the interval
belong to it when the significand is even. -/
def roundsTo (x : Float64) (candidate scale : Nat) : Bool :=
  let (down, up) := x.roundingGap
  let unit := Nat.pow 2 x.exponent.toNat * scale
  let low := (4 * x.significand - down) * unit
  let high := (4 * x.significand + up) * unit
  let middle := 4 * candidate * x.denominator
  if x.significand % 2 = 0 then low ≤ middle && middle ≤ high else low < middle && middle < high

/-- The nearer of the two neighbours of `x` with a given unit in the last place that rounds to
`x`. -/
def neighbour? (x : Float64) (unit : Int) : Option Nat :=
  let num := x.numerator * Nat.pow 10 (-unit).toNat
  let den := x.denominator * Nat.pow 10 unit.toNat
  let below := num / den
  let candidate (n : Nat) : Bool :=
    x.roundsTo (n * Nat.pow 10 unit.toNat) (Nat.pow 10 (-unit).toNat)
  match 0 < below && candidate below, candidate (below + 1) with
  | true, true => some (if 2 * (num % den) < den then below else below + 1)
  | true, false => some below
  | false, true => some (below + 1)
  | false, false => none

/-- The first hit among grids of more and more digits, as digits and unit. With seventeen digits
there always is one. -/
def shortestFrom (x : Float64) (exponent : Int) : (tries digits : Nat) → Nat × Int
  | 0, _ => (x.significand, 0)
  | tries + 1, digits =>
    let unit := exponent - (digits : Int) + 1
    match x.neighbour? unit with
    | some n => (n, unit)
    | none => shortestFrom x exponent tries (digits + 1)

/-- The shortest decimal that reads back as a positive number, as digits and unit. -/
def shortestDecimal (x : Float64) : Nat × Int :=
  x.shortestFrom (decimalExponent x.numerator x.denominator) 17 1

/-- The shortest text form, written out. -/
def toShortest (x : Float64) : String :=
  if x.isNaN then "NaN"
  else
    let magnitude : List Char :=
      if x.isInfinite then "inf".toList
      else if x.isZero then ['0']
      else
        let (digits, unit) := x.shortestDecimal
        if 0 ≤ unit then decimalDigits (digits * Nat.pow 10 unit.toNat)
        else trimFraction (fixedDigits digits (-unit).toNat)
    String.ofList (if x.isNegative then '-' :: magnitude else magnitude)

end DynamicValues.Float64
