import DynamicValues.Proofs.Number.ReadBack

/-!
# Digits as a whole number

Digits that fit 64 bits are read as the number that they denote. Others are read as the floating point
number nearest to it, and that is taken back to a whole number within the limits of 64 bits. The
detour does not show: whatever the number of digits, the answer is the number that they denote,
**limited to 64 bits** (`World.integer_limited`).

The reason is that both limits come out of a rounding that keeps the order. The power `2 ^ 63` is a
floating point number itself, so what is at least that large is rounded to nothing smaller
(`Float64.IsNearest.le_magnitude`), and the limits are on the far side of it.
-/

set_option autoImplicit false

namespace DynamicValues

open Numeral NumericPrefix

/-! ## Limits -/

namespace Float64

variable {x y : Float64} {negative : Bool} {q : ℚ}

theorem toInt_clampInt64 (n : Int) :
    (clampInt64 n).toInt = max (-2 ^ 63) (min n (2 ^ 63 - 1)) := by
  have hmin : Int64.minValue.toInt = -2 ^ 63 := by decide
  have hmax : Int64.maxValue.toInt = 2 ^ 63 - 1 := by decide
  rw [clampInt64, hmin, hmax]
  apply Int64.toInt_ofInt_of_le <;> omega

/-- **Rounding stays on the side of a number that needs none.** -/
theorem IsNearest.le_magnitude (h : x.IsNearest negative q) (hy : y.isNaN = false)
    (hle : y.magnitude ≤ q) : y.magnitude ≤ x.magnitude := by
  have hnear := h.nearest y hy
  rw [abs_sub_comm y.magnitude, abs_of_nonneg (sub_nonneg.2 hle)] at hnear
  linarith [(abs_le.1 hnear).1]

/-- The first number past the upper limit. -/
def pastLimit : Float64 := ofFields false (1086 * Nat.pow 2 52)

theorem magnitude_pastLimit : pastLimit.magnitude = 2 ^ 63 := by
  have hsignificand : pastLimit.significand = 2 ^ 52 := by decide +kernel
  have hexponent : pastLimit.exponent = 11 := by decide +kernel
  rw [magnitude, hsignificand, hexponent]
  norm_num

theorem le_numerator_div_denominator {n : Nat} (h : (n : ℚ) ≤ x.magnitude) :
    n ≤ x.numerator / x.denominator := by
  rw [Nat.le_div_iff_mul_le (denominator_pos x), ← Nat.cast_le (α := ℚ), Nat.cast_mul,
    ← le_div_iff₀ (by exact_mod_cast denominator_pos x), numerator_div_denominator]
  exact h

/-- What is rounded from past the limits is at the limit of its sign. -/
theorem IsNearest.toInt_toInt64 (h : x.IsNearest negative q) (hlarge : 2 ^ 63 ≤ q) :
    x.toInt64.toInt = if negative then -2 ^ 63 else 2 ^ 63 - 1 := by
  have hmagnitude : ((2 ^ 63 : Nat) : ℚ) ≤ x.magnitude := by
    rw [← magnitude_pastLimit] at hlarge
    have hle := h.le_magnitude (by decide +kernel) hlarge
    rwa [magnitude_pastLimit] at hle
  have hwhole := le_numerator_div_denominator hmagnitude
  rw [toInt64, h.isNaN, if_neg Bool.false_ne_true, toInt_clampInt64, truncate, h.isNegative]
  cases negative with
  | false => simp only [Bool.false_eq_true, if_false]; omega
  | true => simp only [if_true]; omega

end Float64

/-- **What digits are worth, as a whole number, is what they denote within the limits.** -/
theorem Numeral.Worth.toInt_toInt64 {negative : Bool} {digits : List Char} {number : Number}
    (h : Worth (.whole negative digits) number) :
    number.toInt64.toInt = max (-2 ^ 63) (min (signed negative (digitsValue digits)) (2 ^ 63 - 1)) := by
  have hmin : Int64.minValue.toInt = -2 ^ 63 := by decide
  have hmax : Int64.maxValue.toInt = 2 ^ 63 - 1 := by decide
  cases h with
  | @int _ _ n hvalue =>
    have hlow := n.minValue_le_toInt
    have hhigh := n.toInt_le
    rw [hmin] at hlow
    rw [← hvalue, Number.toInt64]
    omega
  | @wide _ _ x hwide hnearest =>
    rw [hmin, hmax] at hwide
    -- Past either limit the value without its sign is no less than the power.
    have hlarge : 2 ^ 63 ≤ digitsValue digits := by
      cases negative <;> simp [signed] at hwide <;> omega
    have hlimit := hnearest.toInt_toInt64 (by exact_mod_cast hlarge)
    rw [Number.toInt64, hlimit]
    cases negative with
    | false => simp [signed] at hwide ⊢; omega
    | true => simp [signed] at hwide ⊢; omega

/-! ## Digits with blanks around -/

namespace Numeral

/-- The text is made of digits, with a sign or without and with blanks around, that denote the number
in the decimal system. -/
inductive Denotes : List Char → Int → Prop where
  | intro {negative : Bool} {before sign digits behind : List Char}
      (hbefore : ∀ c ∈ before, isBlank c = true) (hsign : Sign negative sign)
      (hdigits : Digits digits) (hbehind : ∀ c ∈ behind, isBlank c = true) :
      Denotes (before ++ (sign ++ (digits ++ behind)))
        (signed negative (Nat.ofDigitChars 10 digits 0))

/-- Nothing of a numeral begins with a blank. -/
theorem stops_of_blank {behind : List Char} (h : ∀ c ∈ behind, isBlank c = true) :
    Stops behind ∧ readExponent? behind = none := by
  cases behind with
  | nil => exact ⟨stops_nil, rfl⟩
  | cons c behind =>
    have hother : c.isDigit = false ∧ c ≠ '.' ∧ ¬ (c = 'e' ∨ c = 'E') := by
      rcases blank_cases (h c List.mem_cons_self) with rfl | rfl | rfl | rfl | rfl <;> decide
    obtain ⟨hdigit, hpoint, hmark⟩ := hother
    refine ⟨fun d hd => ?_, readExponent?_other (by simpa using hmark)⟩
    obtain rfl := Option.some.inj hd
    exact ⟨hdigit, hpoint⟩

variable {negative : Bool} {sign digits behind : List Char}

/-- Digits are read as they are up to the blanks behind them. -/
theorem Digits.read?_append (hdigits : Digits digits) (hsign : Sign negative sign)
    (hbehind : ∀ c ∈ behind, isBlank c = true) :
    read? (sign ++ (digits ++ behind)) = some (.whole negative digits, behind) := by
  obtain ⟨hstops, hexponent⟩ := stops_of_blank hbehind
  rw [read?_of_mantissa hsign (.whole hdigits), readDigits?,
    (Mantissa.whole hdigits).readMantissa?_append hstops, Option.map_some]
  dsimp only
  rw [hexponent]

/-- A sign or a digit is no blank. -/
theorem Digits.dropWhile_isBlank (hdigits : Digits digits) (hsign : Sign negative sign) :
    (sign ++ (digits ++ behind)).dropWhile isBlank = sign ++ (digits ++ behind) := by
  obtain ⟨c, tail, rfl⟩ := List.exists_cons_of_ne_nil hdigits.ne_nil
  exact hsign.dropWhile_isBlank (isBlank_of_isDigit (hdigits.all c List.mem_cons_self))

/-- **Digits with blanks around are read as one number**, to the end of the text. -/
theorem Denotes.scan?_eq {text : String} {n : Int} (h : Denotes text.toList n) :
    ∃ number, scan? text = some ⟨number, true, true⟩ ∧
      number.toInt64.toInt = max (-2 ^ 63) (min n (2 ^ 63 - 1)) := by
  generalize hchars : text.toList = chars at h
  cases h with
  | @intro negative before sign digits behind hbefore hsign hdigits hbehind =>
    have hread : read? (text.toList.dropWhile isBlank) =
        some (.whole negative digits, behind) := by
      rw [hchars, List.dropWhile_append_of_pos hbefore, hdigits.dropWhile_isBlank hsign,
        hdigits.read?_append hsign hbehind]
    have hscan := scan?_of_some hread
    rw [List.all_eq_true.2 hbehind] at hscan
    refine ⟨_, hscan, ?_⟩
    rw [← digitsValue_eq_ofDigitChars]
    exact (Spelled.whole hsign (.whole hdigits)).worth.toInt_toInt64

end Numeral

/-- **A scalar that holds digits is, as a whole number, what they denote, limited to 64 bits.** There
may be any number of digits, a sign before them, and blanks around. Nothing is warned about. -/
theorem World.integer_limited {world : World} {v : Value} {text : String} {position : Option Nat}
    {n : Int} (hcontent : world.heap.content v = .scalar (.text text) position)
    (hdigits : Denotes text.toList n) :
    (world.integer v).value.toInt = max (-2 ^ 63) (min n (2 ^ 63 - 1)) ∧
      (world.integer v).warnings = [] := by
  obtain ⟨number, hscan, hvalue⟩ := hdigits.scan?_eq
  have hnumber : world.number v = ⟨number, []⟩ := by
    rw [World.number, hcontent]
    exact datumNumber_of_scan? hscan world
  rw [integer, hnumber]
  exact ⟨hvalue, rfl⟩

/-- One below the lower limit, with a sign and blanks. As a floating point number it is the limit. -/
theorem World.integer_limited_belowLimit :
    let v : Value := ⟨0⟩
    let text := "\t-9223372036854775809 \n"
    let world : World := { (default : World) with heap := ⟨#[{ content := .scalar (.text text) none }]⟩ }
    world.heap.content v = .scalar (.text text) none ∧
      Denotes text.toList (-9223372036854775809) ∧
      (world.integer v).value.toInt = -9223372036854775808 ∧ (world.integer v).warnings = [] := by
  intro v text world
  let digits := "9223372036854775809".toList
  have hdenotes : Denotes text.toList (-9223372036854775809) := by
    have hchars : text.toList = ['\t'] ++ (['-'] ++ (digits ++ [' ', '\n'])) := by
      simp [text, digits]
    have hvalue : signed true (Nat.ofDigitChars 10 digits 0) = -9223372036854775809 := rfl
    have hdigits : Digits digits := ⟨by simp [digits], by simp [digits]⟩
    rw [hchars, ← hvalue]
    have hbefore : ∀ c ∈ ['\t'], isBlank c = true := by simp [isBlank]
    have hbehind : ∀ c ∈ [' ', '\n'], isBlank c = true := by simp [isBlank]
    exact .intro hbefore .minus hdigits hbehind
  exact ⟨rfl, hdenotes, integer_limited rfl hdenotes⟩

end DynamicValues
