import Mathlib
import DynamicValues.Number.Float64

/-!
# Rounding to the nearest number

The bits of a number without the sign count the numbers from zero up: what they stand for
(`gridValue`) grows with them, and infinity comes next after the largest finite number, as the power
of two that would stand there. `Float64.nearestBits` finds the one **nearest to a quotient**
(`nearest_nearestBits`), the even one of two that are as near.

So `Float64.ofDecimal` is the number nearest to a decimal numeral (`isNearest_ofDecimal`); what it
says of very large and very small exponents without a computation is the same answer.
-/

set_option autoImplicit false

namespace DynamicValues

/-! ## Quotients -/

/-- The quotient is rounded to a neighbour that is nearer than the other one, or even. -/
theorem roundDivEven_cases (num den : Nat) :
    (roundDivEven num den = num / den ∧
      (2 * (num % den) < den ∨ 2 * (num % den) = den ∧ num / den % 2 = 0)) ∨
    (roundDivEven num den = num / den + 1 ∧
      (den < 2 * (num % den) ∨ 2 * (num % den) = den ∧ (num / den + 1) % 2 = 0)) := by
  unfold roundDivEven
  dsimp only
  split
  · next h => exact .inl ⟨rfl, h⟩
  · next h => exact .inr ⟨rfl, by omega⟩

section Remainder

variable {num den : Nat} (hden : 0 < den)

include hden

theorem remainder_lt_iff :
    ((num % den : Nat) : ℚ) / den < 1 - (num % den : Nat) / den ↔ 2 * (num % den) < den := by
  have hden' : (0 : ℚ) < den := by exact_mod_cast hden
  rw [lt_sub_iff_add_lt, ← add_div, div_lt_one hden', ← two_mul]
  exact_mod_cast Iff.rfl

theorem lt_remainder_iff :
    1 - ((num % den : Nat) : ℚ) / den < (num % den : Nat) / den ↔ den < 2 * (num % den) := by
  have hden' : (0 : ℚ) < den := by exact_mod_cast hden
  rw [sub_lt_iff_lt_add, ← add_div, one_lt_div hden', ← two_mul]
  exact_mod_cast Iff.rfl

theorem remainder_eq_iff :
    ((num % den : Nat) : ℚ) / den = 1 - (num % den : Nat) / den ↔ 2 * (num % den) = den := by
  have hden' : (den : ℚ) ≠ 0 := by exact_mod_cast Nat.ne_of_gt hden
  rw [eq_sub_iff_add_eq, ← add_div, div_eq_one_iff_eq hden', ← two_mul]
  exact_mod_cast Iff.rfl

end Remainder

theorem cast_div_eq (num : Nat) {den : Nat} (hden : 0 < den) :
    (num : ℚ) / den = (num / den : Nat) + ((num % den : Nat) : ℚ) / den := by
  have hden' : (den : ℚ) ≠ 0 := by exact_mod_cast Nat.ne_of_gt hden
  rw [div_eq_iff hden', add_mul, div_mul_cancel₀ _ hden']
  exact_mod_cast (Nat.div_add_mod' num den).symm

/-- A power with any exponent, as the quotient of two powers of natural numbers. -/
theorem cast_pow_toNat {base : Nat} (hbase : 0 < base) (n : ℤ) :
    ((Nat.pow base n.toNat : Nat) : ℚ) = (base : ℚ) ^ n * (Nat.pow base (-n).toNat : Nat) := by
  have hbase' : (base : ℚ) ≠ 0 := by exact_mod_cast Nat.ne_of_gt hbase
  rw [Nat.pow_eq, Nat.pow_eq]
  push_cast
  rcases le_total 0 n with h | h
  · obtain ⟨k, rfl⟩ := Int.eq_ofNat_of_zero_le h
    simp
  · obtain ⟨k, hk⟩ := Int.eq_ofNat_of_zero_le (neg_nonneg.2 h)
    obtain rfl : n = -(k : ℤ) := by omega
    simp [hbase']

theorem cast_log2_le {n : Nat} (h : n ≠ 0) : (2 : ℚ) ^ (Nat.log2 n : ℤ) ≤ n := by
  have := Nat.log2_self_le h
  rw [zpow_natCast]
  exact_mod_cast this

theorem lt_cast_log2 (n : Nat) : (n : ℚ) < 2 ^ ((Nat.log2 n : ℤ) + 1) := by
  have : n < 2 ^ (n.log2 + 1) := Nat.lt_log2_self
  rw [← Nat.cast_succ, zpow_natCast]
  exact_mod_cast this

theorem two_zpow_le_div_iff {num den : Nat} (hden : 0 < den) (n : ℤ) :
    (2 : ℚ) ^ n ≤ num / den ↔ den * Nat.pow 2 n.toNat ≤ num * Nat.pow 2 (-n).toNat := by
  have hden' : (0 : ℚ) < den := by exact_mod_cast hden
  have hpos : (0 : ℚ) < (Nat.pow 2 (-n).toNat : Nat) := by
    exact_mod_cast Nat.pow_pos (by decide)
  rw [le_div_iff₀ hden', ← Nat.cast_le (α := ℚ), Nat.cast_mul, Nat.cast_mul,
    cast_pow_toNat Nat.two_pos, Nat.cast_two, ← mul_assoc, mul_le_mul_iff_left₀ hpos, mul_comm]

/-- A quotient is the one that is left for a significand, times the unit of the significand. -/
theorem div_mul_zpow {base : Nat} (hbase : 0 < base) (num : Nat) {den : Nat} (hden : 0 < den)
    (unit : ℤ) :
    ((num * Nat.pow base (-unit).toNat : Nat) : ℚ) / (den * Nat.pow base unit.toNat : Nat) *
      base ^ unit = num / den := by
  have hden' : (den : ℚ) ≠ 0 := by exact_mod_cast Nat.ne_of_gt hden
  have hbase' : (base : ℚ) ≠ 0 := by exact_mod_cast Nat.ne_of_gt hbase
  have hpow : ((Nat.pow base (-unit).toNat : Nat) : ℚ) ≠ 0 := by
    exact_mod_cast Nat.ne_of_gt (Nat.pow_pos hbase)
  have hunit : (base : ℚ) ^ unit ≠ 0 := zpow_ne_zero _ hbase'
  rw [Nat.cast_mul, Nat.cast_mul, cast_pow_toNat hbase unit]
  field_simp

/-- **The binary exponent** of a quotient is that of the power of two just below it. -/
theorem binaryExponent_spec {num den : Nat} (hnum : 0 < num) (hden : 0 < den) :
    (2 : ℚ) ^ binaryExponent num den ≤ num / den ∧
      (num : ℚ) / den < 2 ^ (binaryExponent num den + 1) := by
  have hden' : (0 : ℚ) < den := by exact_mod_cast hden
  have hlow := cast_log2_le (Nat.ne_of_gt hnum)
  have hlow' := cast_log2_le (Nat.ne_of_gt hden)
  have hhigh := lt_cast_log2 num
  have hhigh' := lt_cast_log2 den
  unfold binaryExponent
  dsimp only
  split
  · next h =>
    refine ⟨(two_zpow_le_div_iff hden _).2 h, ?_⟩
    rw [div_lt_iff₀ hden']
    calc (num : ℚ) < 2 ^ ((Nat.log2 num : ℤ) + 1) := hhigh
      _ = 2 ^ ((Nat.log2 num : ℤ) - Nat.log2 den + 1) * 2 ^ (Nat.log2 den : ℤ) := by
        rw [← zpow_add₀ (by norm_num)]
        congr 1
        ring
      _ ≤ 2 ^ ((Nat.log2 num : ℤ) - Nat.log2 den + 1) * den := by gcongr
  · next h =>
    rw [← two_zpow_le_div_iff hden, not_le] at h
    refine ⟨?_, by rwa [sub_add_cancel]⟩
    rw [le_div_iff₀ hden']
    calc (2 : ℚ) ^ ((Nat.log2 num : ℤ) - Nat.log2 den - 1) * den
        ≤ 2 ^ ((Nat.log2 num : ℤ) - Nat.log2 den - 1) * 2 ^ ((Nat.log2 den : ℤ) + 1) := by gcongr
      _ = 2 ^ (Nat.log2 num : ℤ) := by
        rw [← zpow_add₀ (by norm_num)]
        congr 1
        ring
      _ ≤ num := hlow

namespace Float64

/-! ## The numbers in order -/

/-- What bits stand for. -/
def gridValue (bits : Nat) : ℚ :=
  ((if bits / Nat.pow 2 52 = 0 then bits % Nat.pow 2 52
    else Nat.pow 2 52 + bits % Nat.pow 2 52 : Nat) : ℚ) *
      2 ^ (((max (bits / Nat.pow 2 52) 1 : Nat) : ℤ) - 1075)

/-- The bits of a significand that is counted in some unit. -/
theorem gridValue_unit {unit significand : Nat} (hle : significand ≤ Nat.pow 2 53)
    (hfull : unit = 0 ∨ Nat.pow 2 52 ≤ significand) :
    gridValue (unit * Nat.pow 2 52 + significand) = significand * 2 ^ ((unit : ℤ) - 1074) := by
  have hpow : Nat.pow 2 53 = 9007199254740992 := rfl
  have hpow' : Nat.pow 2 52 = 4503599627370496 := rfl
  unfold gridValue
  rw [hpow] at hle
  rw [hpow'] at hfull ⊢
  -- The significand has no leading bit yet, has it, or carries into the exponent.
  rcases Nat.lt_or_ge significand 4503599627370496 with hsmall | hlarge
  · obtain rfl : unit = 0 := by omega
    rw [show (0 * 4503599627370496 + significand) / 4503599627370496 = 0 by omega,
      show (0 * 4503599627370496 + significand) % 4503599627370496 = significand by omega]
    norm_num
  · obtain ⟨fraction, rfl⟩ := Nat.exists_eq_add_of_le hlarge
    rcases Nat.lt_or_ge fraction 4503599627370496 with hfraction | hcarry
    · rw [show (unit * 4503599627370496 + (4503599627370496 + fraction)) / 4503599627370496 =
          unit + 1 by omega,
        show (unit * 4503599627370496 + (4503599627370496 + fraction)) % 4503599627370496 =
          fraction by omega, if_neg (by omega), max_eq_left (by omega)]
      push_cast
      congr 2
      ring
    · obtain rfl : fraction = 4503599627370496 := by omega
      rw [show (unit * 4503599627370496 + (4503599627370496 + 4503599627370496)) /
          4503599627370496 = unit + 2 by omega,
        show (unit * 4503599627370496 + (4503599627370496 + 4503599627370496)) %
          4503599627370496 = 0 by omega, if_neg (by omega), max_eq_left (by omega),
        show ((unit + 2 : Nat) : ℤ) - 1075 = (unit : ℤ) - 1074 + 1 by push_cast; ring,
        zpow_add_one₀ (by norm_num)]
      push_cast
      ring

/-- Any bits are those of a significand in some unit, with room for one more. -/
theorem exists_unit (bits : Nat) : ∃ unit significand, bits = unit * Nat.pow 2 52 + significand ∧
    significand < Nat.pow 2 53 ∧ (unit = 0 ∨ Nat.pow 2 52 ≤ significand) := by
  have hpow : Nat.pow 2 53 = 9007199254740992 := rfl
  have hpow' : Nat.pow 2 52 = 4503599627370496 := rfl
  rw [hpow, hpow']
  by_cases hsmall : bits < 4503599627370496
  · exact ⟨0, bits, by omega, by omega, .inl rfl⟩
  · exact ⟨bits / 4503599627370496 - 1, 4503599627370496 + bits % 4503599627370496, by omega,
      by omega, .inr (by omega)⟩

theorem strictMono_gridValue : StrictMono gridValue := by
  refine strictMono_nat_of_lt_succ fun bits => ?_
  obtain ⟨unit, significand, rfl, hlt, hfull⟩ := exists_unit bits
  rw [gridValue_unit (Nat.le_of_lt hlt) hfull, Nat.add_assoc,
    gridValue_unit hlt (hfull.imp_right Nat.le_succ_of_le)]
  have hpos : (0 : ℚ) < 2 ^ ((unit : ℤ) - 1074) := by positivity
  push_cast
  nlinarith

/-! ## The nearest bits -/

/-- The bits of the number nearest to a quotient, the even ones of two that are as near. -/
structure Nearest (q : ℚ) (bits : Nat) : Prop where
  le : bits ≤ infinityBits
  nearest : ∀ other ≤ infinityBits, |gridValue bits - q| ≤ |gridValue other - q|
  even : ∀ other ≤ infinityBits,
    |gridValue bits - q| = |gridValue other - q| → other = bits ∨ bits % 2 = 0

/-- It is enough to be nearer than every other, or even and as near. -/
theorem nearest_of_beats {q : ℚ} {bits : Nat} (hle : bits ≤ infinityBits)
    (h : ∀ other ≤ infinityBits, other ≠ bits → |gridValue bits - q| < |gridValue other - q| ∨
      |gridValue bits - q| = |gridValue other - q| ∧ bits % 2 = 0) : Nearest q bits := by
  refine ⟨hle, fun other hother => ?_, fun other hother heq => ?_⟩
  · by_cases hne : other = bits
    · rw [hne]
    · rcases h other hother hne with hlt | ⟨heq, -⟩
      · exact hlt.le
      · exact heq.le
  · by_cases hne : other = bits
    · exact .inl hne
    · rcases h other hother hne with hlt | ⟨-, heven⟩
      · exact absurd heq hlt.ne
      · exact .inr heven

section Between

variable {q : ℚ} {low : Nat}

theorem lt_distance_of_lt (hlow : gridValue low ≤ q) {other : Nat} (h : other < low) :
    |gridValue low - q| < |gridValue other - q| := by
  have hlt := strictMono_gridValue h
  rw [abs_of_nonpos (by linarith), abs_of_nonpos (by linarith)]
  linarith

theorem lt_distance_of_gt (hhigh : q ≤ gridValue low) {other : Nat} (h : low < other) :
    |gridValue low - q| < |gridValue other - q| := by
  have hlt := strictMono_gridValue h
  rw [abs_of_nonneg (by linarith), abs_of_nonneg (by linarith)]
  linarith

/-- Between two neighbours the nearer one is nearest, or the even one halfway. `part` is how far the
quotient is on the way from the lower one. -/
theorem nearest_of_part {part scale : ℚ} (hscale : 0 < scale) (hpart : 0 ≤ part) (hpart' : part ≤ 1)
    (hlow : q - gridValue low = part * scale) (hhigh : gridValue (low + 1) - q = (1 - part) * scale)
    {bits : Nat} (hle : bits ≤ infinityBits)
    (hbits : bits = low ∧ (part < 1 - part ∨ part = 1 - part ∧ low % 2 = 0) ∨
      bits = low + 1 ∧ (1 - part < part ∨ part = 1 - part ∧ (low + 1) % 2 = 0)) :
    Nearest q bits := by
  have hbelow : |gridValue low - q| = part * scale := by
    rw [abs_sub_comm, hlow, abs_of_nonneg (by positivity)]
  have habove : |gridValue (low + 1) - q| = (1 - part) * scale := by
    rw [hhigh, abs_of_nonneg (mul_nonneg (by linarith) hscale.le)]
  have hle_low : ∀ other < low, part * scale < |gridValue other - q| := by
    intro other hother
    rw [← hbelow]
    exact lt_distance_of_lt (by nlinarith) hother
  have hge_high : ∀ other > low + 1, (1 - part) * scale < |gridValue other - q| := by
    intro other hother
    rw [← habove]
    exact lt_distance_of_gt (by nlinarith) hother
  refine nearest_of_beats hle fun other _ hne => ?_
  rcases hbits with ⟨rfl, hnear⟩ | ⟨rfl, hnear⟩
  · have hpart_le : part * scale ≤ (1 - part) * scale := by
      gcongr
      exact hnear.elim le_of_lt fun h => h.1.le
    rw [hbelow]
    rcases Nat.lt_trichotomy other (bits + 1) with hlt | rfl | hgt
    · exact .inl (hle_low other (by omega))
    · rw [habove]
      exact hnear.imp (fun h => by gcongr) fun h => ⟨by rw [← h.1], h.2⟩
    · exact .inl (hpart_le.trans_lt (hge_high other hgt))
  · have hpart_le : (1 - part) * scale ≤ part * scale := by
      gcongr
      exact hnear.elim le_of_lt fun h => h.1.ge
    rw [habove]
    rcases Nat.lt_trichotomy other low with hlt | rfl | hgt
    · exact .inl (hpart_le.trans_lt (hle_low other hlt))
    · rw [hbelow]
      exact hnear.imp (fun h => by gcongr) fun h => ⟨by rw [← h.1], h.2⟩
    · exact .inl (hge_high other (by omega))

/-- From infinity on the nearest is infinity. -/
theorem nearest_infinityBits (h : gridValue infinityBits ≤ q) : Nearest q infinityBits :=
  nearest_of_beats (Nat.le_refl _) fun _ hle hne =>
    .inl (lt_distance_of_lt h (Nat.lt_of_le_of_ne hle hne))

end Between

theorem gridValue_zero : gridValue 0 = 0 := by simp [gridValue]

theorem gridValue_one : gridValue 1 = 2 ^ (-1074 : ℤ) := by
  have hone := gridValue_unit (show 1 ≤ Nat.pow 2 53 by decide) (.inl (Eq.refl 0))
  simpa using hone

theorem gridValue_infinityBits : gridValue infinityBits = 2 ^ 1024 := by
  have hunit := gridValue_unit (show Nat.pow 2 52 ≤ Nat.pow 2 53 by decide)
    (.inr (Nat.le_refl _) : 2046 = 0 ∨ _)
  rw [show infinityBits = 2046 * Nat.pow 2 52 + Nat.pow 2 52 from rfl, hunit,
    show ((2046 : Nat) : ℤ) - 1074 = (972 : Nat) by norm_num, zpow_natCast,
    show ((Nat.pow 2 52 : Nat) : ℚ) = 2 ^ 52 by norm_num, ← pow_add]

theorem nearest_zero : Nearest 0 0 := by
  refine ⟨Nat.zero_le _, fun other _ => ?_, fun other _ _ => .inr rfl⟩
  rw [gridValue_zero, sub_zero, abs_zero]
  exact abs_nonneg _

/-- What is less than half of the way from zero to the first number above is rounded to zero. -/
theorem nearest_zero_of_lt {q : ℚ} (hq : 0 ≤ q) (h : q < 2 ^ (-1075 : ℤ)) : Nearest q 0 := by
  have hscale : (0 : ℚ) < 2 ^ (-1074 : ℤ) := by positivity
  have hdouble : (2 : ℚ) ^ (-1074 : ℤ) = 2 * 2 ^ (-1075 : ℤ) := by
    rw [← zpow_one_add₀ (by norm_num)]
    rfl
  have hlow : q - gridValue 0 = q / 2 ^ (-1074 : ℤ) * 2 ^ (-1074 : ℤ) := by
    rw [gridValue_zero, sub_zero, div_mul_cancel₀ _ hscale.ne']
  have hhigh : gridValue (0 + 1) - q = (1 - q / 2 ^ (-1074 : ℤ)) * 2 ^ (-1074 : ℤ) := by
    rw [gridValue_one, sub_mul, one_mul, div_mul_cancel₀ _ hscale.ne']
  have hhalf : q / 2 ^ (-1074 : ℤ) < 1 - q / 2 ^ (-1074 : ℤ) := by
    rw [lt_sub_iff_add_lt, ← add_div, div_lt_one hscale]
    linarith
  have hpart : 0 ≤ q / 2 ^ (-1074 : ℤ) := by positivity
  exact nearest_of_part hscale hpart (by linarith) hlow hhigh (Nat.zero_le _)
    (.inl ⟨rfl, .inl hhalf⟩)

/-- The significand that a quotient is rounded to leads to the nearest bits. -/
theorem nearest_of_unit {unit num den : Nat} (hden : 0 < den) (hlt : num / den < Nat.pow 2 53)
    (hfull : unit = 0 ∨ Nat.pow 2 52 ≤ num / den) :
    Nearest ((num : ℚ) / den * 2 ^ ((unit : ℤ) - 1074))
      (min (unit * Nat.pow 2 52 + roundDivEven num den) infinityBits) := by
  have hden' : (0 : ℚ) < den := by exact_mod_cast hden
  have hscale : (0 : ℚ) < 2 ^ ((unit : ℤ) - 1074) := by positivity
  have hrest : (0 : ℚ) ≤ (num % den : Nat) / den := by positivity
  have hrest' : ((num % den : Nat) : ℚ) / den < 1 := by
    rw [div_lt_one hden']
    exact_mod_cast Nat.mod_lt num hden
  have hlow : (num : ℚ) / den * 2 ^ ((unit : ℤ) - 1074) -
      gridValue (unit * Nat.pow 2 52 + num / den) =
        (num % den : Nat) / den * 2 ^ ((unit : ℤ) - 1074) := by
    rw [gridValue_unit (Nat.le_of_lt hlt) hfull, cast_div_eq num hden]
    ring
  have hhigh : gridValue (unit * Nat.pow 2 52 + num / den + 1) -
      (num : ℚ) / den * 2 ^ ((unit : ℤ) - 1074) =
        (1 - (num % den : Nat) / den) * 2 ^ ((unit : ℤ) - 1074) := by
    rw [Nat.add_assoc, gridValue_unit hlt (hfull.imp_right Nat.le_succ_of_le),
      cast_div_eq num hden, Nat.cast_succ]
    ring
  rcases Nat.lt_or_ge (unit * Nat.pow 2 52 + num / den) infinityBits with hfinite | hinfinite
  · have hparity : (unit * Nat.pow 2 52) % 2 = 0 := by
      rw [Nat.mul_mod, show Nat.pow 2 52 % 2 = 0 from rfl, Nat.mul_zero, Nat.zero_mod]
    refine nearest_of_part hscale hrest hrest'.le hlow hhigh (Nat.min_le_right _ _) ?_
    rw [remainder_lt_iff hden, lt_remainder_iff hden, remainder_eq_iff hden]
    rcases roundDivEven_cases num den with ⟨hround, hnear⟩ | ⟨hround, hnear⟩
    · refine .inl ⟨by rw [hround, Nat.min_eq_left (Nat.le_of_lt hfinite)], ?_⟩
      exact hnear.imp_right fun h => ⟨h.1, by rw [Nat.add_mod, hparity, h.2]⟩
    · refine .inr ⟨by rw [hround, ← Nat.add_assoc, Nat.min_eq_left hfinite], ?_⟩
      exact hnear.imp_right fun h => ⟨h.1, by rw [Nat.add_assoc, Nat.add_mod, hparity, h.2]⟩
  · have hround : num / den ≤ roundDivEven num den := by
      rcases roundDivEven_cases num den with ⟨hround, -⟩ | ⟨hround, -⟩ <;> omega
    rw [Nat.min_eq_right (by omega)]
    refine nearest_infinityBits ((strictMono_gridValue.monotone hinfinite).trans ?_)
    have := mul_nonneg hrest hscale.le
    linarith

section Significand

variable {num den unit : Nat} (hden : 0 < den)

include hden

/-- The significand has at most 53 bits. -/
theorem significand_lt (hlt : (num : ℚ) / den < 2 ^ ((unit : ℤ) - 1021)) :
    num * Nat.pow 2 (-((unit : ℤ) - 1074)).toNat / (den * Nat.pow 2 ((unit : ℤ) - 1074).toNat) <
      Nat.pow 2 53 := by
  have hscale : (0 : ℚ) < 2 ^ ((unit : ℤ) - 1074) := by positivity
  rw [← Nat.cast_lt (α := ℚ)]
  refine Nat.cast_div_le.trans_lt (lt_of_mul_lt_mul_right ?_ hscale.le)
  calc _ = (num : ℚ) / den := div_mul_zpow Nat.two_pos num hden _
    _ < 2 ^ ((unit : ℤ) - 1021) := hlt
    _ = 2 ^ (53 + ((unit : ℤ) - 1074)) := by
      congr 1
      ring
    _ = (Nat.pow 2 53 : Nat) * 2 ^ ((unit : ℤ) - 1074) := by
      rw [zpow_add₀ (by norm_num)]
      norm_num

/-- The significand has no fewer bits, unless its unit is the smallest one. -/
theorem le_significand (hle : (2 : ℚ) ^ ((unit : ℤ) - 1022) ≤ num / den) :
    Nat.pow 2 52 ≤
      num * Nat.pow 2 (-((unit : ℤ) - 1074)).toNat /
        (den * Nat.pow 2 ((unit : ℤ) - 1074).toNat) := by
  have hscale : (0 : ℚ) < 2 ^ ((unit : ℤ) - 1074) := by positivity
  have hden' : 0 < den * Nat.pow 2 ((unit : ℤ) - 1074).toNat :=
    Nat.mul_pos hden (Nat.pow_pos (by decide))
  rw [Nat.le_div_iff_mul_le hden', ← Nat.cast_le (α := ℚ), Nat.cast_mul,
    ← le_div_iff₀ (by exact_mod_cast hden')]
  refine le_of_mul_le_mul_right ?_ hscale
  calc ((Nat.pow 2 52 : Nat) : ℚ) * 2 ^ ((unit : ℤ) - 1074)
      = 2 ^ (52 + ((unit : ℤ) - 1074)) := by
        rw [zpow_add₀ (by norm_num)]
        norm_num
    _ = 2 ^ ((unit : ℤ) - 1022) := by
      congr 1
      ring
    _ ≤ num / den := hle
    _ = _ := (div_mul_zpow Nat.two_pos num hden _).symm

end Significand

/-- **The bits found are nearest.** -/
theorem nearest_nearestBits (num : Nat) {den : Nat} (hden : 0 < den) :
    Nearest (num / den) (nearestBits num den) := by
  unfold nearestBits
  split
  · next hzero =>
    rw [hzero, Nat.cast_zero, zero_div]
    exact nearest_zero
  · next hne =>
    obtain ⟨hexponent, hexponent'⟩ := binaryExponent_spec (Nat.pos_of_ne_zero hne) hden
    dsimp only
    generalize hexp : max (binaryExponent num den - 52) (-1074) = exponent
    obtain ⟨unit, hunit⟩ := Int.eq_ofNat_of_zero_le (show 0 ≤ exponent + 1074 by omega)
    obtain rfl : exponent = (unit : ℤ) - 1074 := by omega
    rw [hunit, ← div_mul_zpow Nat.two_pos num hden ((unit : ℤ) - 1074)]
    refine nearest_of_unit (Nat.mul_pos hden (Nat.pow_pos (by decide))) ?_ ?_
    · refine significand_lt hden (hexponent'.trans_le ?_)
      exact zpow_le_zpow_right₀ (by norm_num) (by omega)
    · rcases Nat.eq_zero_or_pos unit with hzero | hpos
      · exact .inl hzero
      · refine .inr (le_significand hden (le_trans ?_ hexponent))
        exact zpow_le_zpow_right₀ (by norm_num) (by omega)

/-! ## The nearest number -/

/-- What a number stands for without its sign, infinity for the power of two that comes after the
finite numbers. -/
def magnitude (x : Float64) : ℚ := x.significand * 2 ^ x.exponent

/-- The number nearest to a quotient with a sign, the even one of two that are as near. -/
structure IsNearest (x : Float64) (negative : Bool) (q : ℚ) : Prop where
  isNegative : x.isNegative = negative
  isNaN : x.isNaN = false
  nearest : ∀ y : Float64, y.isNaN = false → |x.magnitude - q| ≤ |y.magnitude - q|
  even : ∀ y : Float64, y.isNaN = false → |x.magnitude - q| = |y.magnitude - q| →
    y.magnitude = x.magnitude ∨ x.significand % 2 = 0

/-- The bits without the sign. -/
def magnitudeBits (x : Float64) : Nat := x.bits.toNat % Nat.pow 2 63

theorem exponentField_eq (x : Float64) : x.exponentField = x.magnitudeBits / Nat.pow 2 52 := by
  rw [exponentField, magnitudeBits, show Nat.pow 2 63 = Nat.pow 2 52 * Nat.pow 2 11 from rfl,
    Nat.mod_mul_right_div_self]

theorem fraction_eq (x : Float64) : x.fraction = x.magnitudeBits % Nat.pow 2 52 := by
  rw [fraction, magnitudeBits, Nat.mod_mod_of_dvd]
  exact ⟨Nat.pow 2 11, rfl⟩

theorem magnitude_eq (x : Float64) : x.magnitude = gridValue x.magnitudeBits := by
  rw [magnitude, gridValue, significand, exponent, exponentField_eq, fraction_eq]

theorem isNaN_eq_false_iff (x : Float64) : x.isNaN = false ↔ x.magnitudeBits ≤ infinityBits := by
  have hlt : x.magnitudeBits < 2048 * Nat.pow 2 52 := Nat.mod_lt _ (by decide)
  rw [isNaN, exponentField_eq, fraction_eq, infinityBits]
  rw [show Nat.pow 2 52 = 4503599627370496 from rfl] at hlt ⊢
  simp only [Bool.and_eq_false_iff, beq_eq_false_iff_ne, bne_eq_false_iff_eq, ne_eq]
  omega

theorem significand_mod_two (x : Float64) : x.significand % 2 = x.magnitudeBits % 2 := by
  rw [significand, exponentField_eq, fraction_eq, show Nat.pow 2 52 = 4503599627370496 from rfl]
  split <;> omega

section OfFields

variable (negative : Bool) {bits : Nat}

theorem toNat_bits_ofFields (h : bits ≤ infinityBits) :
    (ofFields negative bits).bits.toNat = (if negative then Nat.pow 2 63 else 0) + bits := by
  have hbits : bits ≤ 9218868437227405312 := h
  refine UInt64.toNat_ofNat_of_lt' ?_
  rw [show UInt64.size = 18446744073709551616 from rfl]
  cases negative with
  | false => simp only [Bool.false_eq_true, if_false]; omega
  | true => rw [if_pos rfl, show Nat.pow 2 63 = 9223372036854775808 from rfl]; omega

theorem magnitudeBits_ofFields (h : bits ≤ infinityBits) :
    (ofFields negative bits).magnitudeBits = bits := by
  have hbits : bits ≤ 9218868437227405312 := h
  rw [magnitudeBits, toNat_bits_ofFields negative h,
    show Nat.pow 2 63 = 9223372036854775808 from rfl]
  cases negative with
  | false => simp only [Bool.false_eq_true, if_false]; omega
  | true => rw [if_pos rfl]; omega

theorem isNegative_ofFields (h : bits ≤ infinityBits) :
    (ofFields negative bits).isNegative = negative := by
  have hbits : bits ≤ 9218868437227405312 := h
  rw [isNegative, toNat_bits_ofFields negative h,
    show Nat.pow 2 63 = 9223372036854775808 from rfl]
  cases negative with
  | false => rw [beq_eq_false_iff_ne]; simp only [Bool.false_eq_true, if_false]; omega
  | true => rw [beq_iff_eq, if_pos rfl]; omega

/-- The nearest bits with a sign are the nearest number. -/
theorem Nearest.isNearest {q : ℚ} (h : Nearest q bits) :
    (ofFields negative bits).IsNearest negative q := by
  have hbits := magnitudeBits_ofFields negative h.le
  refine ⟨isNegative_ofFields negative h.le, ?_, fun y hy => ?_, fun y hy heq => ?_⟩
  · rw [isNaN_eq_false_iff, hbits]
    exact h.le
  · rw [magnitude_eq, magnitude_eq, hbits]
    exact h.nearest _ ((isNaN_eq_false_iff y).1 hy)
  · rw [magnitude_eq, magnitude_eq, hbits] at heq
    rw [magnitude_eq, magnitude_eq, significand_mod_two, hbits]
    exact (h.even _ ((isNaN_eq_false_iff y).1 hy) heq).imp_left (congrArg gridValue)

theorem isNearest_ofRatio (num : Nat) {den : Nat} (hden : 0 < den) :
    (ofRatio negative num den).IsNearest negative (num / den) :=
  (nearest_nearestBits num hden).isNearest negative

theorem two_pow_le_ten_pow {m n : Nat} (h : m ≤ 3 * n) : (2 : ℚ) ^ m ≤ 10 ^ n :=
  calc (2 : ℚ) ^ m ≤ 2 ^ (3 * n) := pow_le_pow_right₀ (by norm_num) h
    _ = 8 ^ n := by
      rw [pow_mul]
      norm_num
    _ ≤ 10 ^ n := by
      gcongr
      norm_num

/-- **A decimal is rounded to the nearest number**, also where the answer is told from the exponent
alone. The digits that are told must be enough for the coefficient. -/
theorem isNearest_ofDecimal {coefficient digits : Nat} (hdigits : coefficient < 10 ^ digits)
    (exponent : ℤ) :
    (ofDecimal negative coefficient digits exponent).IsNearest negative
      (coefficient * 10 ^ exponent) := by
  have hscale : (0 : ℚ) < 10 ^ exponent := by positivity
  unfold ofDecimal
  split
  · next hzero =>
    rw [hzero, Nat.cast_zero, zero_mul]
    exact nearest_zero.isNearest negative
  next hne =>
  split
  · next hlarge =>
    refine Nearest.isNearest negative (nearest_infinityBits ?_)
    have hone : (1 : ℚ) ≤ coefficient := by exact_mod_cast Nat.pos_of_ne_zero hne
    calc gridValue infinityBits = 2 ^ 1024 := gridValue_infinityBits
      _ ≤ 10 ^ 401 := two_pow_le_ten_pow (by decide)
      _ = 10 ^ (401 : ℤ) := (zpow_ofNat _ _).symm
      _ ≤ 10 ^ exponent := zpow_le_zpow_right₀ (by norm_num) (by omega)
      _ ≤ coefficient * 10 ^ exponent := le_mul_of_one_le_left hscale.le hone
  split
  · next hsmall =>
    have hlt : (coefficient : ℚ) * 10 ^ exponent < 2 ^ (-1075 : ℤ) := by
      calc (coefficient : ℚ) * 10 ^ exponent < 10 ^ (digits : ℤ) * 10 ^ exponent := by
            gcongr
            rw [zpow_natCast]
            exact_mod_cast hdigits
        _ = 10 ^ (digits + exponent) := (zpow_add₀ (by norm_num) _ _).symm
        _ ≤ 10 ^ (-401 : ℤ) := zpow_le_zpow_right₀ (by norm_num) (by omega)
        _ ≤ 2 ^ (-1075 : ℤ) := by
          rw [zpow_neg, zpow_neg, zpow_ofNat, zpow_ofNat]
          exact inv_anti₀ (by positivity) (two_pow_le_ten_pow (by decide))
    exact (nearest_zero_of_lt (by positivity) hlt).isNearest negative
  · have hden : 0 < Nat.pow 10 (-exponent).toNat := Nat.pow_pos (by decide)
    have hratio := isNearest_ofRatio negative (coefficient * Nat.pow 10 exponent.toNat) hden
    have hden' : ((Nat.pow 10 (-exponent).toNat : Nat) : ℚ) ≠ 0 := by
      exact_mod_cast Nat.ne_of_gt hden
    rwa [Nat.cast_mul, cast_pow_toNat (by decide) exponent, ← mul_assoc,
      mul_div_cancel_right₀ _ hden'] at hratio

end OfFields

end Float64

end DynamicValues
