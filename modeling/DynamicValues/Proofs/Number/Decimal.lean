import Mathlib
import DynamicValues.Number.General
import DynamicValues.Proofs.Number.Prefix

/-!
# Decimal notation

`Plain q text` says that `text` is the notation of `q` with nothing in it that could be left out: no
zero in front of the digits, none at the end of the fraction and no point that nothing follows. A
number has one such notation (`Plain.unique`).

What is written with a fixed number of places becomes that when it is trimmed
(`plain_fixedDigits`).
-/

set_option autoImplicit false

namespace DynamicValues

namespace Numeral

/-! ## Digits and their value -/

theorem digitsValue_eq_ofDigitChars (digits : List Char) :
    digitsValue digits = Nat.ofDigitChars 10 digits 0 := by
  rw [Nat.ofDigitChars_eq_foldl, digitsValue]
  simp only [Nat.mul_comm]

/-- Digits that are written for a number have its value. -/
@[simp]
theorem digitsValue_toDigits (n : Nat) : digitsValue (Nat.toDigits 10 n) = n := by
  rw [digitsValue_eq_ofDigitChars, Nat.ofDigitChars_ten_toDigits]

theorem digits_toDigits (n : Nat) : Digits (Nat.toDigits 10 n) :=
  ⟨Nat.toDigits_ne_nil, fun _ => Nat.isDigit_of_mem_toDigits (by decide) (by decide)⟩

/-- Zeros in front do not count. -/
theorem digitsValue_replicate_append (zeros : Nat) (digits : List Char) :
    digitsValue (List.replicate zeros '0' ++ digits) = digitsValue digits := by
  induction zeros with
  | zero => rfl
  | succ zeros ih => exact ih

/-- One more digit at the end. -/
theorem digitsValue_concat (digits : List Char) (c : Char) :
    digitsValue (digits ++ [c]) = digitsValue digits * 10 + (c.toNat - '0'.toNat) :=
  List.foldl_append

/-- A digit is known by its value. -/
theorem digit_inj {c d : Char} (hc : c.isDigit = true) (hd : d.isDigit = true)
    (h : c.toNat - '0'.toNat = d.toNat - '0'.toNat) : c = d := by
  have hc' := (toNat_of_isDigit hc).1
  have hd' := (toNat_of_isDigit hd).1
  rw [show '0'.toNat = 48 from rfl] at h
  refine Char.toNat_inj.1 ?_
  omega

/-- As many digits with the same value are the same digits. -/
theorem digitsValue_inj {digits others : List Char} (hdigits : ∀ c ∈ digits, c.isDigit = true)
    (hothers : ∀ c ∈ others, c.isDigit = true) (hlength : digits.length = others.length)
    (h : digitsValue digits = digitsValue others) : digits = others := by
  induction digits using List.reverseRecOn generalizing others with
  | nil => exact (List.length_eq_zero_iff.1 hlength.symm).symm
  | append_singleton digits c ih =>
    cases others using List.reverseRecOn with
    | nil => exact absurd hlength (by simp)
    | append_singleton others d =>
      have hc := hdigits c (by simp)
      have hd := hothers d (by simp)
      have hc' := sub_lt_of_isDigit hc
      have hd' := sub_lt_of_isDigit hd
      rw [digitsValue_concat, digitsValue_concat] at h
      have hlast : c.toNat - '0'.toNat = d.toNat - '0'.toNat := by omega
      have hfront : digits = others :=
        ih (fun e he => hdigits e (List.mem_append_left _ he))
          (fun e he => hothers e (List.mem_append_left _ he)) (by simpa using hlength) (by omega)
      rw [hfront, digit_inj hc hd hlast]

/-- Digits that do not end in a zero do not stand for a multiple of ten. -/
theorem not_ten_dvd_digitsValue {digits : List Char} (hdigits : Digits digits)
    (hlast : digits.getLast? ≠ some '0') : ¬ 10 ∣ digitsValue digits := by
  obtain ⟨front, c, rfl⟩ := (List.eq_nil_or_concat digits).resolve_left hdigits.ne_nil
  have hc := hdigits.all c (by simp)
  have hlt := sub_lt_of_isDigit hc
  rw [List.concat_eq_append, digitsValue_concat]
  intro hdvd
  have hzero : c.toNat - '0'.toNat = 0 := by omega
  exact hlast (by simp [digit_inj hc (d := '0') rfl hzero])

end Numeral

open Numeral

/-- The notation of a decimal, of which nothing can be left out. -/
inductive Plain : ℚ → List Char → Prop where
  | whole (n : Nat) : Plain n (Nat.toDigits 10 n)
  | pointed (n : Nat) {fraction : List Char} (hfraction : Digits fraction)
      (hlast : fraction.getLast? ≠ some '0') :
      Plain (n + digitsValue fraction / 10 ^ fraction.length)
        (Nat.toDigits 10 n ++ '.' :: fraction)

/-- It is the mantissa of a numeral. -/
theorem Plain.mantissa {q : ℚ} {text : List Char} (h : Plain q text) :
    ∃ digits fraction, Mantissa digits fraction text := by
  cases h with
  | whole n => exact ⟨_, _, .whole (digits_toDigits n)⟩
  | pointed n hfraction _ => exact ⟨_, _, .pointed (digits_toDigits n) hfraction.all⟩

/-! ## One notation for a number -/

section Fractions

variable {n m : Nat} {fraction other : List Char}

/-- What is before the point and behind it, counted in the same unit on both sides. -/
theorem pointed_eq_iff {v w k l : Nat} :
    (n + v / 10 ^ k : ℚ) = m + w / 10 ^ l ↔
      (n * 10 ^ k + v) * 10 ^ l = (m * 10 ^ l + w) * 10 ^ k := by
  rw [← @Nat.cast_inj ℚ]
  push_cast
  field_simp

/-- A fraction that does not end in a zero is as short as any. -/
theorem length_le_of_pointed_eq (hother : ∀ c ∈ other, c.isDigit = true)
    (hlast : other.getLast? ≠ some '0')
    (h : (n * 10 ^ fraction.length + digitsValue fraction) * 10 ^ other.length =
      (m * 10 ^ other.length + digitsValue other) * 10 ^ fraction.length) :
    other.length ≤ fraction.length := by
  refine Nat.le_of_not_lt fun hlt => ?_
  obtain ⟨extra, hextra⟩ := Nat.exists_eq_add_of_lt hlt
  have hdigits : Digits other := ⟨List.ne_nil_of_length_pos (Nat.zero_lt_of_lt hlt), hother⟩
  have hsame : (n * 10 ^ fraction.length + digitsValue fraction) * 10 ^ (extra + 1) =
      m * 10 ^ other.length + digitsValue other := by
    refine Nat.eq_of_mul_eq_mul_right (Nat.pow_pos (show 0 < 10 by decide)) (Eq.trans ?_ h)
    rw [hextra, Nat.mul_assoc, ← Nat.pow_add, Nat.add_comm (extra + 1), Nat.add_assoc]
  have hleft : 10 ∣ m * 10 ^ other.length + digitsValue other :=
    hsame ▸ Dvd.dvd.mul_left (dvd_pow_self 10 extra.succ_ne_zero) _
  have hright : 10 ∣ m * 10 ^ other.length :=
    Dvd.dvd.mul_left (dvd_pow_self 10 (Nat.ne_of_gt (Nat.zero_lt_of_lt hlt))) _
  exact not_ten_dvd_digitsValue hdigits hlast ((Nat.dvd_add_right hright).1 hleft)

/-- A number has one whole part and one fraction that does not end in a zero. -/
theorem pointed_inj (hfraction : ∀ c ∈ fraction, c.isDigit = true)
    (hlast : fraction.getLast? ≠ some '0') (hother : ∀ c ∈ other, c.isDigit = true)
    (hlast' : other.getLast? ≠ some '0')
    (h : (n + digitsValue fraction / 10 ^ fraction.length : ℚ) =
      m + digitsValue other / 10 ^ other.length) : n = m ∧ fraction = other := by
  have hsame := pointed_eq_iff.1 h
  have hlength : fraction.length = other.length :=
    Nat.le_antisymm (length_le_of_pointed_eq hfraction hlast hsame.symm)
      (length_le_of_pointed_eq hother hlast' hsame)
  have hlt := digitsValue_lt hfraction
  have hlt' := digitsValue_lt hother
  rw [hlength] at hsame hlt
  have hpos : 0 < 10 ^ other.length := Nat.pow_pos (by decide)
  have hparts := Nat.eq_of_mul_eq_mul_right hpos hsame
  have hsplit : ∀ whole value, value < 10 ^ other.length →
      (whole * 10 ^ other.length + value) / 10 ^ other.length = whole ∧
        (whole * 10 ^ other.length + value) % 10 ^ other.length = value := by
    intro whole value hvalue
    exact (Nat.div_mod_unique hpos).2 ⟨by rw [Nat.mul_comm, Nat.add_comm], hvalue⟩
  obtain ⟨hwhole, hrest⟩ := hsplit n _ hlt
  rw [hparts] at hwhole hrest
  obtain ⟨hwhole', hrest'⟩ := hsplit m _ hlt'
  exact ⟨hwhole.symm.trans hwhole',
    digitsValue_inj hfraction hother hlength (hrest.symm.trans hrest')⟩

end Fractions

/-- A whole number is written as if its fraction were empty. -/
theorem Plain.exists_fraction {q : ℚ} {text : List Char} (h : Plain q text) :
    ∃ (n : Nat) (fraction : List Char),
      (∀ c ∈ fraction, c.isDigit = true) ∧ fraction.getLast? ≠ some '0' ∧
      q = n + digitsValue fraction / 10 ^ fraction.length ∧
      text = Nat.toDigits 10 n ++ if fraction = [] then [] else '.' :: fraction := by
  cases h with
  | whole n => exact ⟨n, [], by simp, by simp, by simp [digitsValue], by simp⟩
  | pointed n hfraction hlast =>
    exact ⟨n, _, hfraction.all, hlast, rfl, by rw [if_neg hfraction.ne_nil]⟩

/-- **A number has one plain notation.** -/
theorem Plain.unique {q : ℚ} {text text' : List Char} (h : Plain q text) (h' : Plain q text') :
    text' = text := by
  obtain ⟨n, fraction, hfraction, hlast, hvalue, rfl⟩ := h.exists_fraction
  obtain ⟨m, other, hother, hlast', hvalue', rfl⟩ := h'.exists_fraction
  obtain ⟨rfl, rfl⟩ := pointed_inj hfraction hlast hother hlast' (hvalue.symm.trans hvalue')
  rfl

namespace Float64

/-! ## Trimming -/

section Trim

variable {front fraction : List Char} {c : Char}

theorem trimFraction_point (hfront : ∀ c ∈ front, c.isDigit = true) :
    trimFraction (front ++ ['.']) = front := by
  rw [trimFraction, if_pos (by simp), List.reverse_append, List.reverse_singleton,
    List.singleton_append, List.dropWhile_cons_of_neg (by decide),
    List.dropWhile_cons_of_pos (by decide)]
  have hkeep : front.reverse.dropWhile (· == '.') = front.reverse := by
    cases hreverse : front.reverse with
    | nil => rfl
    | cons c tail =>
      have hdigit := hfront c (List.mem_reverse.1 (hreverse ▸ List.mem_cons_self))
      refine List.dropWhile_cons_of_neg fun hpoint => ?_
      rw [beq_iff_eq.1 hpoint] at hdigit
      exact absurd hdigit (by decide)
  rw [hkeep, List.reverse_reverse]

theorem trimFraction_zero :
    trimFraction (front ++ '.' :: (fraction ++ ['0'])) = trimFraction (front ++ '.' :: fraction) := by
  rw [trimFraction, trimFraction, if_pos (by simp), if_pos (by simp), ← List.cons_append,
    ← List.append_assoc, List.reverse_append, List.reverse_singleton, List.singleton_append,
    List.dropWhile_cons_of_pos (by decide)]

theorem trimFraction_digit (hdigit : c.isDigit = true) (hzero : c ≠ '0') :
    trimFraction (front ++ '.' :: (fraction ++ [c])) = front ++ '.' :: (fraction ++ [c]) := by
  have hpoint : c ≠ '.' := by
    rintro rfl
    exact absurd hdigit (by decide)
  rw [trimFraction, if_pos (by simp), ← List.cons_append, ← List.append_assoc, List.reverse_append,
    List.reverse_singleton, List.singleton_append, List.dropWhile_cons_of_neg (by simpa using hzero),
    List.dropWhile_cons_of_neg (by simpa using hpoint), List.reverse_cons, List.reverse_reverse]

end Trim

/-- **A trimmed decimal denotes the same number**, in the plain notation. -/
theorem plain_trimFraction (n : Nat) {fraction : List Char}
    (hfraction : ∀ c ∈ fraction, c.isDigit = true) :
    Plain (n + digitsValue fraction / 10 ^ fraction.length)
      (trimFraction (Nat.toDigits 10 n ++ '.' :: fraction)) := by
  induction fraction using List.reverseRecOn with
  | nil =>
    rw [trimFraction_point (digits_toDigits n).all]
    simpa [digitsValue] using Plain.whole n
  | append_singleton fraction c ih =>
    by_cases hzero : c = '0'
    · have hvalue : (n : ℚ) + digitsValue (fraction ++ [c]) / 10 ^ (fraction ++ [c]).length =
          n + digitsValue fraction / 10 ^ fraction.length := by
        rw [hzero, digitsValue_concat, Nat.sub_self, Nat.add_zero, List.length_append,
          List.length_singleton, pow_succ, Nat.cast_mul, Nat.cast_ofNat,
          mul_div_mul_right _ _ (by norm_num)]
      rw [hvalue, hzero, trimFraction_zero]
      exact ih fun d hd => hfraction d (List.mem_append_left _ hd)
    · rw [trimFraction_digit (hfraction c (by simp)) hzero]
      exact .pointed n ⟨by simp, hfraction⟩ (by simpa using hzero)

theorem trimFraction_digits {digits : List Char} (h : ∀ c ∈ digits, c.isDigit = true) :
    trimFraction digits = digits := by
  refine if_neg fun hpoint => ?_
  exact absurd (h '.' (by simpa using hpoint)) (by decide)

/-- **What is written with a number of places and trimmed** is the plain notation. -/
theorem plain_fixedDigits (n places : Nat) :
    Plain (n / 10 ^ places) (trimFraction (fixedDigits n places)) := by
  unfold fixedDigits decimalDigits
  split
  · next hzero =>
    rw [hzero, pow_zero, div_one, trimFraction_digits (digits_toDigits n).all]
    exact .whole n
  · next hplaces =>
    dsimp only
    rw [Nat.pow_eq]
    have hpow : 0 < 10 ^ places := Nat.pow_pos (by decide)
    have hlength : (Nat.toDigits 10 (n % 10 ^ places)).length ≤ places :=
      Nat.toDigits_length _ _ _ (Nat.pos_of_ne_zero hplaces) (Nat.mod_lt _ hpow)
    have hdigits : ∀ c ∈ List.replicate (places - (Nat.toDigits 10 (n % 10 ^ places)).length) '0' ++
        Nat.toDigits 10 (n % 10 ^ places), c.isDigit = true := by
      intro c hc
      rcases List.mem_append.1 hc with hzero | hdigit
      · rw [List.eq_of_mem_replicate hzero]
        rfl
      · exact (digits_toDigits _).all c hdigit
    have hplain := plain_trimFraction (n / 10 ^ places) hdigits
    rw [digitsValue_replicate_append, digitsValue_toDigits, List.length_append,
      List.length_replicate, Nat.sub_add_cancel hlength] at hplain
    rw [List.append_assoc, List.cons_append]
    convert hplain using 1
    rw [← Nat.cast_ofNat (R := ℚ) (n := 10), ← Nat.cast_pow]
    exact cast_div_eq n hpow

end Float64

end DynamicValues
