import Mathlib
import DynamicValues.Proofs.Number.Decimal

/-!
# The general text form of a number

The text of a finite number other than zero is the notation of the nearest decimal of fifteen digits
(`Rounded`), laid out with or without an exponent by where its first digit stands (`Layout`). The
nearest decimal is one only (`Rounded.unique`).

Without an exponent the number is rounded a second time, to the places behind the point. That gives
the same decimal (`roundDivEven_places`), also where the first rounding went up to the next power of
ten, so that a place less is written than the number itself would have.
-/

set_option autoImplicit false

namespace DynamicValues

/-! ## Decimals of fifteen digits -/

/-- A whole number of fifteen digits. -/
def FifteenDigits (digits : Nat) : Prop := 10 ^ 14 ≤ digits ∧ digits < 10 ^ 15

/-- Fifteen digits with the point behind the first, times a power of ten. -/
def decimalValue (digits : Nat) (exponent : ℤ) : ℚ := digits * 10 ^ (exponent - 14)

/-- A quotient is rounded to fifteen digits: no other decimal of fifteen digits is nearer, and of
two that are as near it is the even one. -/
structure Rounded (q : ℚ) (digits : Nat) (exponent : ℤ) : Prop where
  fifteen : FifteenDigits digits
  nearest : ∀ other power, FifteenDigits other →
    |decimalValue digits exponent - q| ≤ |decimalValue other power - q|
  even : ∀ other power, FifteenDigits other →
    |decimalValue digits exponent - q| = |decimalValue other power - q| →
      (other = digits ∧ power = exponent) ∨ digits % 2 = 0

section Decimals

variable {digits other : Nat} {exponent power : ℤ}

theorem decimalValue_lt_iff :
    decimalValue digits exponent < decimalValue other exponent ↔ digits < other := by
  have hscale : (0 : ℚ) < 10 ^ (exponent - 14) := by positivity
  rw [decimalValue, decimalValue, mul_lt_mul_iff_left₀ hscale, Nat.cast_lt]

theorem decimalValue_le_iff :
    decimalValue digits exponent ≤ decimalValue other exponent ↔ digits ≤ other := by
  rw [← not_lt, decimalValue_lt_iff, not_lt]

theorem decimalValue_ten_pow (n : Nat) (exponent : ℤ) :
    decimalValue (10 ^ n) exponent = 10 ^ (exponent + n - 14) := by
  rw [decimalValue, Nat.cast_pow, Nat.cast_ofNat, ← zpow_natCast, ← zpow_add₀ (by norm_num)]
  congr 1
  ring

/-- The least decimal with an exponent. -/
theorem decimalValue_least (exponent : ℤ) : decimalValue (10 ^ 14) exponent = 10 ^ exponent := by
  rw [decimalValue_ten_pow, Nat.cast_ofNat, add_sub_cancel_right]

/-- A digit too many leads to the next exponent. -/
theorem decimalValue_carry (exponent : ℤ) :
    decimalValue (10 ^ 15) exponent = decimalValue (10 ^ 14) (exponent + 1) := by
  rw [decimalValue_ten_pow, decimalValue_ten_pow]
  congr 1
  push_cast
  ring

theorem le_decimalValue (h : FifteenDigits digits) :
    (10 : ℚ) ^ exponent ≤ decimalValue digits exponent := by
  rw [← decimalValue_least]
  exact decimalValue_le_iff.2 h.1

theorem decimalValue_lt (h : FifteenDigits digits) :
    decimalValue digits exponent < 10 ^ (exponent + 1) := by
  rw [← decimalValue_least, ← decimalValue_carry]
  exact decimalValue_lt_iff.2 h.2

/-- **There is no decimal of fifteen digits between neighbours**: each of them is at most the lower
one or at least the upper one. -/
theorem decimalValue_gap (hother : FifteenDigits other) (h : 10 ^ 14 ≤ digits) :
    decimalValue other power ≤ decimalValue digits exponent ∨
      decimalValue (digits + 1) exponent ≤ decimalValue other power := by
  rcases lt_or_ge power exponent with hlt | hle
  · left
    calc decimalValue other power ≤ 10 ^ (power + 1) := (decimalValue_lt hother).le
      _ ≤ 10 ^ exponent := zpow_le_zpow_right₀ (by norm_num) (by omega)
      _ = decimalValue (10 ^ 14) exponent := (decimalValue_least exponent).symm
      _ ≤ decimalValue digits exponent := decimalValue_le_iff.2 h
  · -- The coarser grid is part of the finer one.
    obtain ⟨shift, rfl⟩ := Int.le.dest hle
    have hvalue : decimalValue other (exponent + shift) =
        decimalValue (other * 10 ^ shift) exponent := by
      unfold decimalValue
      rw [add_sub_right_comm, zpow_add₀ (by norm_num), zpow_natCast]
      push_cast
      ring
    rw [hvalue, decimalValue_le_iff, decimalValue_le_iff]
    exact Nat.lt_or_ge digits _ |>.symm

/-- A decimal has one spelling with fifteen digits. -/
theorem decimalValue_inj (hdigits : FifteenDigits digits) (hother : FifteenDigits other)
    (h : decimalValue other power = decimalValue digits exponent) :
    other = digits ∧ power = exponent := by
  have hexponent : ∀ {m n : ℕ} {j k : ℤ}, FifteenDigits m → FifteenDigits n →
      decimalValue m j = decimalValue n k → j ≤ k := by
    intro m n j k hm hn heq
    have hlt : (10 : ℚ) ^ j < 10 ^ (k + 1) :=
      (le_decimalValue hm).trans_lt (heq ▸ decimalValue_lt hn)
    exact Int.lt_add_one_iff.1 ((zpow_lt_zpow_iff_right₀ (by norm_num)).1 hlt)
  obtain rfl : power = exponent :=
    le_antisymm (hexponent hother hdigits h) (hexponent hdigits hother h.symm)
  have hscale : (10 : ℚ) ^ (power - 14) ≠ 0 := by positivity
  exact ⟨by exact_mod_cast mul_right_cancel₀ hscale h, rfl⟩

end Decimals

/-! ## Rounding to fifteen digits -/

/-- Of two different decimals that are as near, one is odd: between two even ones is another, which
is nearer than both. -/
theorem Rounded.not_even_lt {q : ℚ} {low high : Nat} {exponent power : ℤ}
    (hlow : Rounded q low exponent) (hhigh : FifteenDigits high) (heven : low % 2 = 0)
    (heven' : high % 2 = 0) (hlt : decimalValue low exponent < decimalValue high power)
    (hsame : |decimalValue low exponent - q| = |decimalValue high power - q|) : False := by
  have hbetween : decimalValue low exponent < decimalValue (low + 1) exponent :=
    decimalValue_lt_iff.2 (Nat.lt_succ_self low)
  have hnext : FifteenDigits (low + 1) := by
    have hfifteen := hlow.fifteen
    unfold FifteenDigits at hfifteen ⊢
    omega
  have hbelow : decimalValue (low + 1) exponent < decimalValue high power := by
    refine lt_of_le_of_ne ?_ fun heq => ?_
    · exact (decimalValue_gap hhigh hlow.fifteen.1).resolve_left (not_le.2 hlt)
    · obtain ⟨rfl, -⟩ := decimalValue_inj hhigh hnext heq
      omega
  have hnearest := hlow.nearest _ exponent hnext
  -- Two places that are as far from `q` have it halfway between them.
  have hhalf : decimalValue low exponent - q = -(decimalValue high power - q) :=
    (abs_eq_abs.1 hsame).resolve_left fun heq => by linarith
  rw [abs_of_nonpos (by linarith)] at hnearest
  exact absurd hnearest (not_le.2 (abs_lt.2 ⟨by linarith, by linarith⟩))

/-- **Rounding to fifteen digits has one result.** -/
theorem Rounded.unique {q : ℚ} {digits other : Nat} {exponent power : ℤ}
    (h : Rounded q digits exponent) (h' : Rounded q other power) :
    other = digits ∧ power = exponent := by
  have hsame := le_antisymm (h.nearest _ power h'.fifteen) (h'.nearest _ exponent h.fifteen)
  rcases h.even _ power h'.fifteen hsame with hequal | heven
  · exact hequal
  rcases h'.even _ exponent h.fifteen hsame.symm with ⟨rfl, rfl⟩ | heven'
  · exact ⟨rfl, rfl⟩
  rcases lt_trichotomy (decimalValue digits exponent) (decimalValue other power) with
    hlt | heq | hgt
  · exact (h.not_even_lt h'.fifteen heven heven' hlt hsame).elim
  · exact decimalValue_inj h.fifteen h'.fifteen heq.symm
  · exact (h'.not_even_lt h.fifteen heven' heven hgt hsame.symm).elim

section Neighbours

variable {q : ℚ} {low : Nat} {exponent : ℤ} (hlow : 10 ^ 14 ≤ low)
  (hbelow : decimalValue low exponent ≤ q) (habove : q ≤ decimalValue (low + 1) exponent)

include hlow hbelow habove

/-- Every decimal is a neighbour, or farther than the neighbour on its side. -/
theorem neighbour_or_farther {other : Nat} (power : ℤ) (hother : FifteenDigits other) :
    (decimalValue other power = decimalValue low exponent ∨
      |decimalValue low exponent - q| < |decimalValue other power - q|) ∨
    (decimalValue other power = decimalValue (low + 1) exponent ∨
      |decimalValue (low + 1) exponent - q| < |decimalValue other power - q|) := by
  rcases decimalValue_gap hother hlow with hle | hge
  · left
    rcases hle.eq_or_lt with heq | hlt
    · exact .inl heq
    · right
      rw [abs_of_nonpos (by linarith), abs_of_nonpos (by linarith)]
      linarith
  · right
    rcases hge.eq_or_lt with heq | hlt
    · exact .inl heq.symm
    · right
      rw [abs_of_nonneg (by linarith), abs_of_nonneg (by linarith)]
      linarith

/-- The nearer neighbour is nearest, or the even one halfway. It may be spelled with the next
exponent. -/
theorem rounded_of_neighbour {result digits : Nat} {power : ℤ}
    (hresult : (result = low ∧
        (|decimalValue low exponent - q| < |decimalValue (low + 1) exponent - q| ∨
          |decimalValue low exponent - q| = |decimalValue (low + 1) exponent - q| ∧ low % 2 = 0)) ∨
      (result = low + 1 ∧
        (|decimalValue (low + 1) exponent - q| < |decimalValue low exponent - q| ∨
          |decimalValue low exponent - q| = |decimalValue (low + 1) exponent - q| ∧
            (low + 1) % 2 = 0)))
    (hdigits : FifteenDigits digits)
    (hvalue : decimalValue digits power = decimalValue result exponent)
    (hparity : result % 2 = 0 → digits % 2 = 0) : Rounded q digits power := by
  have hbeats : ∀ other power', FifteenDigits other →
      decimalValue other power' = decimalValue result exponent ∨
        |decimalValue result exponent - q| < |decimalValue other power' - q| ∨
          |decimalValue result exponent - q| = |decimalValue other power' - q| ∧
            result % 2 = 0 := by
    intro other power' hother
    have hsides := neighbour_or_farther hlow hbelow habove power' hother
    rcases hresult with ⟨rfl, hnear⟩ | ⟨rfl, hnear⟩
    · rcases hsides with (heq | hfar) | (heq | hfar)
      · exact .inl heq
      · exact .inr (.inl hfar)
      · rw [heq]
        exact .inr hnear
      · exact .inr (.inl ((hnear.elim le_of_lt fun h => h.1.le).trans_lt hfar))
    · rcases hsides with (heq | hfar) | (heq | hfar)
      · rw [heq]
        exact .inr (hnear.imp_right fun h => ⟨h.1.symm, h.2⟩)
      · exact .inr (.inl ((hnear.elim le_of_lt fun h => h.1.ge).trans_lt hfar))
      · exact .inl heq
      · exact .inr (.inl hfar)
  refine ⟨hdigits, fun other power' hother => ?_, fun other power' hother heq => ?_⟩
  · rw [hvalue]
    rcases hbeats other power' hother with hsame | hlt | ⟨heq, -⟩
    · rw [hsame]
    · exact hlt.le
    · exact heq.le
  · rw [hvalue] at heq
    rcases hbeats other power' hother with hsame | hlt | ⟨-, heven⟩
    · exact .inl (decimalValue_inj hdigits hother (hsame.trans hvalue.symm))
    · exact absurd heq hlt.ne
    · exact .inr (hparity heven)

end Neighbours

/-- **The whole number that a quotient is rounded to** is the nearest decimal, if it has fifteen
digits or is the power of ten above. -/
theorem rounded_roundDivEven {num den digits : Nat} {exponent power : ℤ} (hden : 0 < den)
    (hlow : 10 ^ 14 ≤ num / den) (hdigits : FifteenDigits digits)
    (hvalue : decimalValue digits power = decimalValue (roundDivEven num den) exponent)
    (hparity : roundDivEven num den % 2 = 0 → digits % 2 = 0) :
    Rounded ((num : ℚ) / den * 10 ^ (exponent - 14)) digits power := by
  have hscale : (0 : ℚ) < 10 ^ (exponent - 14) := by positivity
  have hrest : (0 : ℚ) ≤ (num % den : Nat) / den := by positivity
  have hrest' : ((num % den : Nat) : ℚ) / den ≤ 1 :=
    div_le_one_of_le₀ (by exact_mod_cast (Nat.mod_lt _ hden).le) (by positivity)
  rw [cast_div_eq num hden]
  have hbelow : |decimalValue (num / den) exponent -
      ((num / den : Nat) + ((num % den : Nat) : ℚ) / den) * 10 ^ (exponent - 14)| =
        (num % den : Nat) / den * 10 ^ (exponent - 14) := by
    rw [abs_sub_comm, decimalValue, ← sub_mul, add_sub_cancel_left, abs_of_nonneg (by positivity)]
  have habove : |decimalValue (num / den + 1) exponent -
      ((num / den : Nat) + ((num % den : Nat) : ℚ) / den) * 10 ^ (exponent - 14)| =
        (1 - (num % den : Nat) / den) * 10 ^ (exponent - 14) := by
    rw [decimalValue, ← sub_mul, Nat.cast_succ, add_sub_add_left_eq_sub,
      abs_of_nonneg (mul_nonneg (by linarith) hscale.le)]
  refine rounded_of_neighbour hlow ?_ ?_ ?_ hdigits hvalue hparity
  · rw [decimalValue]
    gcongr
    linarith
  · rw [decimalValue, Nat.cast_succ]
    gcongr
  · rw [hbelow, habove, mul_lt_mul_iff_left₀ hscale, mul_lt_mul_iff_left₀ hscale,
      mul_left_inj' hscale.ne', remainder_lt_iff hden, lt_remainder_iff hden,
      remainder_eq_iff hden]
    exact roundDivEven_cases num den

/-! ## The exponent of the first digit -/

theorem decimalLength_spec {n : Nat} (hn : 0 < n) :
    10 ^ (decimalLength n - 1) ≤ n ∧ n < 10 ^ decimalLength n := by
  induction n using decimalLength.induct with
  | case1 n hsmall =>
    rw [decimalLength, if_pos hsmall]
    exact ⟨hn, hsmall⟩
  | case2 n hlarge ih =>
    obtain ⟨hle, hlt⟩ := ih (by omega)
    have hpos : 0 < decimalLength (n / 10) := by
      unfold decimalLength
      split <;> simp
    obtain ⟨length, hlength⟩ := Nat.exists_eq_succ_of_ne_zero hpos.ne'
    rw [decimalLength, if_neg hlarge]
    rw [hlength] at hle hlt ⊢
    simp only [Nat.succ_eq_add_one, Nat.add_sub_cancel, Nat.pow_succ] at hle hlt ⊢
    omega

/-- The length of a quotient that is shifted until its first digit is in front of the point tells
where that digit is. -/
theorem decimalLength_quotient {num den shift : Nat} (hden : 0 < den)
    (hbound : den ≤ num * Nat.pow 10 shift) :
    (10 : ℚ) ^ ((decimalLength (num * Nat.pow 10 shift / den) : ℤ) - (shift + 1 : Nat)) ≤
        num / den ∧
      (num : ℚ) / den <
        10 ^ ((decimalLength (num * Nat.pow 10 shift / den) : ℤ) - (shift + 1 : Nat) + 1) := by
  have hden' : (0 : ℚ) < den := by exact_mod_cast hden
  have hscale : (0 : ℚ) < 10 ^ shift := by positivity
  have hshift : (num : ℚ) / den * 10 ^ shift = ((num * Nat.pow 10 shift : Nat) : ℚ) / den := by
    simp only [Nat.pow_eq, Nat.cast_mul, Nat.cast_pow, Nat.cast_ofNat, div_mul_eq_mul_div]
  have hfloor : 0 < num * Nat.pow 10 shift / den := Nat.div_pos hbound hden
  obtain ⟨hle, hlt⟩ := decimalLength_spec hfloor
  obtain ⟨length, hlength⟩ :
      ∃ length, decimalLength (num * Nat.pow 10 shift / den) = length + 1 := by
    refine Nat.exists_eq_succ_of_ne_zero fun hzero => ?_
    rw [hzero] at hlt
    exact absurd hlt (by simpa using hfloor.ne')
  rw [hlength] at hle hlt ⊢
  rw [Nat.add_sub_cancel] at hle
  constructor
  · refine le_of_mul_le_mul_right ?_ hscale
    calc (10 : ℚ) ^ (((length + 1 : Nat) : ℤ) - (shift + 1 : Nat)) * 10 ^ shift
        = ((10 ^ length : Nat) : ℚ) := by
          rw [← zpow_natCast, ← zpow_add₀ (by norm_num), Nat.cast_pow, ← zpow_natCast]
          congr 1
          push_cast
          ring
      _ ≤ (num * Nat.pow 10 shift / den : Nat) := by exact_mod_cast hle
      _ ≤ num / den * 10 ^ shift := by
          rw [hshift]
          exact Nat.cast_div_le
  · refine lt_of_mul_lt_mul_right ?_ hscale.le
    calc (num : ℚ) / den * 10 ^ shift < (num * Nat.pow 10 shift / den + 1 : Nat) := by
          rw [hshift, div_lt_iff₀ hden']
          exact_mod_cast Nat.lt_mul_of_div_lt (Nat.lt_succ_self _) hden
      _ ≤ ((10 ^ (length + 1) : Nat) : ℚ) := by exact_mod_cast hlt
      _ = 10 ^ (((length + 1 : Nat) : ℤ) - (shift + 1 : Nat) + 1) * 10 ^ shift := by
          rw [← zpow_natCast (10 : ℚ) shift, ← zpow_add₀ (by norm_num), Nat.cast_pow,
            ← zpow_natCast]
          congr 1
          push_cast
          ring

/-- **The decimal exponent** of a quotient is that of the power of ten just below it. -/
theorem decimalExponent_spec {num den : Nat} (hden : 0 < den)
    (hbound : den ≤ num * Nat.pow 10 330) :
    (10 : ℚ) ^ decimalExponent num den ≤ num / den ∧
      (num : ℚ) / den < 10 ^ (decimalExponent num den + 1) := by
  unfold decimalExponent
  generalize hshift : 330 = shift at hbound ⊢
  rw [show (331 : ℤ) = (shift + 1 : Nat) by rw [← hshift]; rfl]
  exact decimalLength_quotient hden hbound

/-! ## Rounding with a digit less -/

/-- Rounding moves by half at most. -/
theorem roundDivEven_mul_le (num den : Nat) :
    2 * (roundDivEven num den * den) ≤ 2 * num + den := by
  have hdiv := Nat.div_add_mod' num den
  rcases roundDivEven_cases num den with ⟨hround, hrest⟩ | ⟨hround, hrest⟩
  · rw [hround]
    omega
  · rw [hround, Nat.add_one_mul (num / den) den]
    omega

/-- A whole number that is less than half away is the one that is rounded to. -/
theorem roundDivEven_eq_of_near {num den n : Nat} (hbelow : 2 * (n * den) < 2 * num + den)
    (habove : 2 * num < 2 * (n * den) + den) : roundDivEven num den = n := by
  have hdiv := Nat.div_add_mod' num den
  rcases Nat.lt_or_ge num (n * den) with hlt | hge
  · obtain ⟨m, rfl⟩ : ∃ m, n = m + 1 := Nat.exists_eq_succ_of_ne_zero (by rintro rfl; omega)
    have hquotient : num / den = m :=
      Nat.div_eq_of_lt_le (by rw [Nat.add_one_mul m den] at hbelow; omega) hlt
    rw [hquotient] at hdiv
    rw [Nat.add_one_mul m den] at hbelow
    rcases roundDivEven_cases num den with ⟨-, hrest⟩ | ⟨hround, -⟩
    · omega
    · rw [hround, hquotient]
  · have hquotient : num / den = n :=
      Nat.div_eq_of_lt_le hge (by rw [Nat.add_one_mul n den]; omega)
    rw [hquotient] at hdiv
    rcases roundDivEven_cases num den with ⟨hround, -⟩ | ⟨-, hrest⟩
    · rw [hround, hquotient]
    · omega

/-- Where rounding goes up to a whole number with a zero at the end, it does so with a digit
less. -/
theorem roundDivEven_tenth {num den n : Nat} (hden : 0 < den) (hfloor : num * 10 / den < n * 10)
    (hround : roundDivEven (num * 10) den = n * 10) : roundDivEven num den = n := by
  have hhalf := roundDivEven_mul_le (num * 10) den
  have hlt := (Nat.div_lt_iff_lt_mul hden).1 hfloor
  rw [hround, Nat.mul_right_comm] at hhalf
  rw [Nat.mul_right_comm] at hlt
  exact roundDivEven_eq_of_near (by omega) (by omega)

namespace Float64

/-! ## The two roundings -/

/-- The whole number that is rounded to in order to get fifteen digits. It has a digit more if the
rounding goes up to a power of ten. -/
def leadingDigits (num den : Nat) : Nat :=
  roundDivEven (num * Nat.pow 10 (-(decimalExponent num den - 14)).toNat)
    (den * Nat.pow 10 (decimalExponent num den - 14).toNat)

/-- Where places behind the point are wanted, it is the numerator alone that is scaled. -/
theorem scaled_of_places {exponent : ℤ} {places : Nat} (h : exponent = -(places : ℤ))
    (num den : Nat) :
    num * Nat.pow 10 (-exponent).toNat = num * 10 ^ places ∧
      den * Nat.pow 10 exponent.toNat = den := by
  subst h
  rw [neg_neg, Int.toNat_natCast, Int.toNat_neg_natCast]
  exact ⟨rfl, Nat.mul_one den⟩

theorem fifteenDigits_eq (num den : Nat) :
    fifteenDigits num den =
      if leadingDigits num den = 10 ^ 15 then (10 ^ 14, decimalExponent num den + 1)
      else (leadingDigits num den, decimalExponent num den) := by
  unfold fifteenDigits leadingDigits
  rw [neg_sub]
  rfl

section Quotient

variable {num den : Nat} (hden : 0 < den) (hbound : den ≤ num * Nat.pow 10 330)

include hden hbound

/-- The quotient that is rounded has fifteen digits in front of the point. -/
theorem fifteenDigits_floor :
    FifteenDigits (num * Nat.pow 10 (-(decimalExponent num den - 14)).toNat /
      (den * Nat.pow 10 (decimalExponent num den - 14).toNat)) := by
  obtain ⟨hle, hlt⟩ := decimalExponent_spec hden hbound
  have hscale : (0 : ℚ) < 10 ^ (decimalExponent num den - 14) := by positivity
  have hquotient := div_mul_zpow (show 0 < 10 by decide) num hden (decimalExponent num den - 14)
  rw [Nat.cast_ofNat] at hquotient
  have hden' : 0 < den * Nat.pow 10 (decimalExponent num den - 14).toNat :=
    Nat.mul_pos hden (Nat.pow_pos (by decide))
  constructor
  · rw [Nat.le_div_iff_mul_le hden', ← Nat.cast_le (α := ℚ), Nat.cast_mul,
      ← le_div_iff₀ (by exact_mod_cast hden')]
    refine le_of_mul_le_mul_right ?_ hscale
    rw [hquotient]
    exact (decimalValue_least _).trans_le hle
  · rw [← Nat.cast_lt (α := ℚ)]
    refine Nat.cast_div_le.trans_lt (lt_of_mul_lt_mul_right ?_ hscale.le)
    rw [hquotient]
    exact hlt.trans_eq ((decimalValue_least _).symm.trans (decimalValue_carry _).symm)

/-- Rounding gives fifteen digits, or goes up to the power of ten above. -/
theorem leadingDigits_cases :
    (FifteenDigits (leadingDigits num den) ∧
      fifteenDigits num den = (leadingDigits num den, decimalExponent num den)) ∨
    (leadingDigits num den = 10 ^ 15 ∧
      fifteenDigits num den = (10 ^ 14, decimalExponent num den + 1)) := by
  have hfloor := fifteenDigits_floor hden hbound
  have hround : leadingDigits num den = _ ∨ leadingDigits num den = _ + 1 :=
    (roundDivEven_cases _ _).imp And.left And.left
  rw [fifteenDigits_eq]
  unfold FifteenDigits at hfloor ⊢
  split
  · next hcarry => exact .inr ⟨hcarry, rfl⟩
  · next hcarry => exact .inl ⟨by omega, rfl⟩

/-- **The fifteen digits are those of the nearest decimal.** -/
theorem rounded_fifteenDigits :
    Rounded ((num : ℚ) / den) (fifteenDigits num den).1 (fifteenDigits num den).2 := by
  have hden' : 0 < den * Nat.pow 10 (decimalExponent num den - 14).toNat :=
    Nat.mul_pos hden (Nat.pow_pos (by decide))
  have hfloor := fifteenDigits_floor hden hbound
  rw [← div_mul_zpow (show 0 < 10 by decide) num hden (decimalExponent num den - 14)]
  rcases leadingDigits_cases hden hbound with ⟨hfifteen, heq⟩ | ⟨hcarry, heq⟩
  · rw [heq]
    exact rounded_roundDivEven hden' hfloor.1 hfifteen rfl id
  · rw [heq]
    refine rounded_roundDivEven hden' hfloor.1 ⟨le_rfl, by norm_num⟩ ?_ fun _ => by norm_num
    change _ = decimalValue (leadingDigits num den) _
    rw [hcarry, decimalValue_carry]

/-- **Rounding to places gives the same decimal** as rounding to fifteen digits, also where the
latter goes up to a power of ten. -/
theorem roundDivEven_places {places : Nat} (hplaces : (fifteenDigits num den).2 = 14 - places) :
    roundDivEven (num * Nat.pow 10 places) den = (fifteenDigits num den).1 := by
  rcases leadingDigits_cases hden hbound with ⟨-, heq⟩ | ⟨hcarry, heq⟩
  · rw [heq] at hplaces ⊢
    dsimp only at hplaces ⊢
    have hexponent : decimalExponent num den - 14 = -(places : ℤ) := by omega
    obtain ⟨hnum, hden'⟩ := scaled_of_places hexponent num den
    rw [leadingDigits, hnum, hden']
    rfl
  · -- One place less than fifteen digits of the number itself need.
    rw [heq] at hplaces ⊢
    have hexponent : decimalExponent num den - 14 = -((places + 1 : Nat) : ℤ) := by
      push_cast
      omega
    obtain ⟨hnum, hden'⟩ := scaled_of_places hexponent num den
    rw [pow_succ, ← Nat.mul_assoc] at hnum
    have hfloor := (fifteenDigits_floor hden hbound).2
    rw [hnum, hden'] at hfloor
    rw [leadingDigits, hnum, hden'] at hcarry
    exact roundDivEven_tenth hden hfloor hcarry

end Quotient

/-! ## Layouts -/

/-- A whole number in at least two digits. -/
def twoDigits (n : Nat) : List Char :=
  if n < 10 then '0' :: Nat.toDigits 10 n else Nat.toDigits 10 n

/-- How a decimal of fifteen digits is written: with an exponent if its first digit is too far from
the point, and else in the plain notation. -/
inductive Layout (digits : Nat) (exponent : ℤ) : List Char → Prop where
  | scientific {mantissa : List Char} (hexponent : exponent < -4 ∨ 15 ≤ exponent)
      (hmantissa : Plain (digits / 10 ^ 14) mantissa) :
      Layout digits exponent
        (mantissa ++ 'e' :: (if exponent < 0 then '-' else '+') :: twoDigits exponent.natAbs)
  | plain {text : List Char} (hlow : -4 ≤ exponent) (hhigh : exponent < 15)
      (htext : Plain (decimalValue digits exponent) text) : Layout digits exponent text

/-- **A decimal is laid out in one way.** -/
theorem Layout.unique {digits : Nat} {exponent : ℤ} {text text' : List Char}
    (h : Layout digits exponent text) (h' : Layout digits exponent text') : text' = text := by
  cases h with
  | scientific hexponent hmantissa =>
    cases h' with
    | scientific _ hmantissa' => rw [hmantissa.unique hmantissa']
    | plain hlow hhigh _ => omega
  | plain hlow hhigh htext =>
    cases h' with
    | scientific hexponent _ => omega
    | plain _ _ htext' => exact htext.unique htext'

theorem exponentText_eq (exponent : ℤ) :
    exponentText exponent =
      'e' :: (if exponent < 0 then '-' else '+') :: twoDigits exponent.natAbs := by
  have hlength : (Nat.toDigits 10 exponent.natAbs).length < 2 ↔ exponent.natAbs < 10 := by
    rw [Nat.lt_succ_iff, Nat.length_toDigits_le_iff (by decide) (by decide), Nat.pow_one]
  unfold exponentText decimalDigits twoDigits
  simp only [hlength]

section Quotient

variable {num den : Nat} (hden : 0 < den) (hbound : den ≤ num * Nat.pow 10 330)

include hden hbound

theorem layout_positiveGeneral :
    Layout (fifteenDigits num den).1 (fifteenDigits num den).2 (positiveGeneral num den) := by
  have hround : ∀ places : Nat, (fifteenDigits num den).2 = 14 - places →
      roundDivEven (num * Nat.pow 10 places) den = (fifteenDigits num den).1 :=
    fun _ => roundDivEven_places hden hbound
  unfold positiveGeneral
  dsimp only
  generalize (fifteenDigits num den).1 = digits at hround ⊢
  generalize (fifteenDigits num den).2 = exponent at hround ⊢
  split
  · next hexponent =>
    rw [exponentText_eq]
    exact .scientific hexponent (plain_fixedDigits digits 14)
  · next hexponent =>
    obtain ⟨places, rfl⟩ : ∃ places : Nat, exponent = 14 - places :=
      ⟨(14 - exponent).toNat, by omega⟩
    rw [sub_sub_cancel, Int.toNat_natCast, hround places rfl]
    have hvalue : decimalValue digits (14 - places) = digits / 10 ^ places := by
      rw [decimalValue, sub_sub_cancel_left, zpow_neg, zpow_natCast, div_eq_mul_inv]
    refine .plain (by omega) (by omega) ?_
    rw [hvalue]
    exact plain_fixedDigits digits places

end Quotient

/-! ## Numbers -/

/-- The number that a finite one stands for. -/
def value (x : Float64) : ℚ := if x.isNegative then -x.magnitude else x.magnitude

variable {x : Float64}

theorem denominator_pos (x : Float64) : 0 < x.denominator := Nat.pow_pos (by decide)

theorem numerator_div_denominator (x : Float64) :
    (x.numerator : ℚ) / x.denominator = x.magnitude := by
  have hden : (x.denominator : ℚ) ≠ 0 := by exact_mod_cast (denominator_pos x).ne'
  rw [div_eq_iff hden, numerator, denominator, magnitude, Nat.cast_mul,
    cast_pow_toNat Nat.two_pos x.exponent, Nat.cast_ofNat, mul_assoc]

theorem significand_pos (hzero : x.isZero = false) : 0 < x.significand := by
  unfold isZero at hzero
  unfold significand
  split
  · next hfield =>
    rw [hfield, beq_self_eq_true, Bool.true_and, beq_eq_false_iff_ne] at hzero
    exact Nat.pos_of_ne_zero hzero
  · exact Nat.add_pos_left (Nat.pow_pos (by decide)) _

theorem numerator_pos (hzero : x.isZero = false) : 0 < x.numerator :=
  Nat.mul_pos (significand_pos hzero) (Nat.pow_pos (by decide))

theorem denominator_le (x : Float64) : x.denominator ≤ Nat.pow 10 330 := by
  have hexponent : (-x.exponent).toNat ≤ 1074 := by
    unfold exponent
    omega
  have hpow : Nat.pow 2 1074 ≤ Nat.pow 10 330 := by decide +kernel
  generalize 1074 = n at hexponent hpow
  exact le_trans (Nat.pow_le_pow_right (by decide) hexponent) hpow

/-- No number is too small for the search of its first digit. -/
theorem denominator_le_numerator_mul (hzero : x.isZero = false) :
    x.denominator ≤ x.numerator * Nat.pow 10 330 :=
  (denominator_le x).trans (Nat.le_mul_of_pos_left _ (numerator_pos hzero))

theorem magnitude_pos (hzero : x.isZero = false) : 0 < x.magnitude :=
  mul_pos (by exact_mod_cast significand_pos hzero) (by positivity)

/-- **The general form is that of the nearest decimal of fifteen digits.** A finite number other
than zero is written as the decimal of fifteen digits that is nearest to it, with a sign if it is
negative and in the layout that goes with the exponent of that decimal. There is one such decimal
and one such layout only. -/
theorem toGeneral_layout (hnan : x.isNaN = false) (hinfinite : x.isInfinite = false)
    (hzero : x.isZero = false) :
    ∃ digits exponent text, Rounded |x.value| digits exponent ∧
      (∀ digits' exponent', Rounded |x.value| digits' exponent' →
        digits' = digits ∧ exponent' = exponent) ∧
      (∀ text', Layout digits exponent text' ↔ text' = text) ∧
      x.toGeneral = String.ofList (if x.value < 0 then '-' :: text else text) := by
  have hpos := magnitude_pos hzero
  have habs : |x.value| = x.magnitude := by
    unfold value
    split
    · rw [abs_neg, abs_of_pos hpos]
    · exact abs_of_pos hpos
  have hsign : x.value < 0 ↔ x.isNegative = true := by
    unfold value
    split
    · next hnegative => simp [hnegative, hpos]
    · next hnegative => simp [hnegative, hpos.le]
  have hden := denominator_pos x
  have hround := rounded_fifteenDigits hden (denominator_le_numerator_mul hzero)
  rw [numerator_div_denominator, ← habs] at hround
  have hlayout := layout_positiveGeneral hden (denominator_le_numerator_mul hzero)
  refine ⟨_, _, positiveGeneral x.numerator x.denominator, hround, fun _ _ => hround.unique,
    fun text' => ?_, ?_⟩
  · exact ⟨fun h => hlayout.unique h, fun h => h ▸ hlayout⟩
  · simp only [toGeneral, hnan, hinfinite, hzero, hsign, Bool.false_eq_true, if_false]

/-- The number below a million is so near to it that its fifteen digits are those of a million: the
exponent goes up, and the second rounding is to a place less. -/
theorem toGeneral_layout_belowMillion :
    let x : Float64 := ⟨0x412E847FFFFFFFFF⟩
    x.isNaN = false ∧ x.isInfinite = false ∧ x.isZero = false ∧ x.toGeneral = "1000000" ∧
      ∃ digits exponent text, Rounded |x.value| digits exponent ∧
        (∀ digits' exponent', Rounded |x.value| digits' exponent' →
          digits' = digits ∧ exponent' = exponent) ∧
        (∀ text', Layout digits exponent text' ↔ text' = text) ∧
        x.toGeneral = String.ofList (if x.value < 0 then '-' :: text else text) :=
  ⟨by decide, by decide, by decide, by decide +kernel,
    toGeneral_layout (by decide) (by decide) (by decide)⟩

end Float64

end DynamicValues
