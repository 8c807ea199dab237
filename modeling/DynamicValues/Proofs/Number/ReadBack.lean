import Mathlib
import DynamicValues.Proofs.Number.General
import DynamicValues.World.Coercion

/-!
# Reading back the text of a number

Texts of numbers are written by two printers and read by one scan. Everything that is printed is a
numeral of the grammar and nothing else (`exists_spelled_intText`, `Float64.isNumeral_toGeneral`),
and a numeral alone is found and read to its end (`Numeral.Spelled.scan?_eq`). So the text of a
number, taken as a number, is never warned about; digits of a whole number are read as that number.
-/

set_option autoImplicit false

namespace DynamicValues

open Numeral NumericPrefix

namespace Numeral

variable {numeral : Numeral} {lexeme : List Char}

/-! ## Reading a numeral alone -/

theorem blank_cases {c : Char} (h : isBlank c = true) :
    c = ' ' ∨ c = '\t' ∨ c = '\n' ∨ c = '\x0c' ∨ c = '\r' := by
  simpa [isBlank, or_assoc] using h

theorem isBlank_of_isDigit {c : Char} (h : c.isDigit = true) : isBlank c = false := by
  rw [← Bool.not_eq_true]
  intro hblank
  rcases blank_cases hblank with rfl | rfl | rfl | rfl | rfl <;> exact absurd h (by decide)

theorem IsWord.exists_not_isBlank {word : String} {text : List Char} (h : IsWord word text)
    {w : Char} (hw : word.toList.head? = some w) (hblank : isBlank w = false) :
    ∃ c tail, text = c :: tail ∧ isBlank c = false := by
  obtain ⟨c, tail, rfl, rfl⟩ := h.exists_head hw
  refine ⟨c, tail, rfl, ?_⟩
  rw [← Bool.not_eq_true]
  intro hc
  rcases blank_cases hc with rfl | rfl | rfl | rfl | rfl <;> exact absurd hblank (by decide)

/-- Behind a sign, if there is one, a text goes on as it does without. -/
theorem Sign.dropWhile_isBlank {negative : Bool} {sign : List Char} (h : Sign negative sign)
    {c : Char} {tail : List Char} (hc : isBlank c = false) :
    (sign ++ c :: tail).dropWhile isBlank = sign ++ c :: tail := by
  cases h with
  | none => simp [hc]
  | plus => rfl
  | minus => rfl

theorem Mantissa.exists_not_isBlank {digits mantissa : List Char} {fraction : Option (List Char)}
    (h : Mantissa digits fraction mantissa) :
    ∃ c tail, mantissa = c :: tail ∧ isBlank c = false := by
  obtain ⟨c, tail, rfl, hdigit | rfl⟩ := h.exists_head
  · exact ⟨c, tail, rfl, isBlank_of_isDigit hdigit⟩
  · exact ⟨_, tail, rfl, rfl⟩

/-- A numeral does not begin with a blank. -/
theorem Spelled.dropWhile_isBlank (h : Spelled numeral lexeme) :
    lexeme.dropWhile isBlank = lexeme := by
  cases h with
  | infinity hsign hword =>
    have hhead := hword.elim (fun hword => hword.exists_not_isBlank rfl rfl)
      (fun hword => hword.exists_not_isBlank rfl rfl)
    obtain ⟨c, tail, rfl, hc⟩ := hhead
    exact hsign.dropWhile_isBlank hc
  | nan hsign hword =>
    obtain ⟨c, tail, rfl, hc⟩ := hword.exists_not_isBlank rfl rfl
    exact hsign.dropWhile_isBlank hc
  | whole hsign hmantissa =>
    obtain ⟨c, tail, rfl, hc⟩ := hmantissa.exists_not_isBlank
    exact hsign.dropWhile_isBlank hc
  | pointed hsign hmantissa =>
    obtain ⟨c, tail, rfl, hc⟩ := hmantissa.exists_not_isBlank
    exact hsign.dropWhile_isBlank hc
  | scaled hsign hmantissa _ =>
    obtain ⟨c, tail, rfl, hc⟩ := hmantissa.exists_not_isBlank
    exact hsign.dropWhile_isBlank hc

/-- **A numeral alone is found and read to its end.** -/
theorem Spelled.scan?_eq {text : String} (h : Spelled numeral text.toList) :
    scan? text = some ⟨numeral.toNumber, true, true⟩ := by
  have hread : read? (text.toList.dropWhile isBlank) = some (numeral, []) := by
    rw [h.dropWhile_isBlank, h.read?_eq]
  exact scan?_of_some hread

/-! ## What is printed -/

/-- A mantissa with a sign is a numeral. -/
theorem Mantissa.isNumeral {digits mantissa sign : List Char} {fraction : Option (List Char)}
    {negative : Bool} (h : Mantissa digits fraction mantissa) (hsign : Sign negative sign) :
    IsNumeral (sign ++ mantissa) := by
  cases fraction with
  | none => exact ⟨_, .whole hsign h⟩
  | some fraction => exact ⟨_, .pointed hsign h⟩

end Numeral

theorem digits_twoDigits (n : Nat) : Digits (Float64.twoDigits n) := by
  have hdigits := digits_toDigits n
  unfold Float64.twoDigits
  split
  · refine ⟨by simp, ?_⟩
    simpa using hdigits.all
  · exact hdigits

/-- Both layouts are numerals, with a sign or without. -/
theorem Float64.Layout.isNumeral {digits : Nat} {exponent : ℤ} {text sign : List Char}
    {negative : Bool} (h : Layout digits exponent text) (hsign : Sign negative sign) :
    IsNumeral (sign ++ text) := by
  cases h with
  | scientific _ hmantissa =>
    obtain ⟨_, _, hmantissa⟩ := hmantissa.mantissa
    have hpower : ∃ power, Exponent power
        ('e' :: (if exponent < 0 then '-' else '+') :: twoDigits exponent.natAbs) := by
      split
      · exact ⟨_, .intro (.inl rfl) .minus (digits_twoDigits _)⟩
      · exact ⟨_, .intro (.inl rfl) .plus (digits_twoDigits _)⟩
    obtain ⟨_, hpower⟩ := hpower
    exact ⟨_, .scaled hsign hmantissa hpower⟩
  | plain _ _ hplain =>
    obtain ⟨_, _, hmantissa⟩ := hplain.mantissa
    exact hmantissa.isNumeral hsign

/-- **Every text of a floating point number is a numeral**: a word, zero or a layout. -/
theorem Float64.isNumeral_toGeneral (x : Float64) : IsNumeral x.toGeneral.toList := by
  unfold toGeneral
  split
  · exact ⟨.nan false, .nan .none rfl⟩
  split
  · split
    · exact ⟨.infinity true, .infinity .minus (.inl rfl)⟩
    · exact ⟨.infinity false, .infinity .none (.inl rfl)⟩
  split
  · exact ⟨.whole false ['0'], .whole .none (.whole (digits_toDigits 0))⟩
  · next hzero =>
    have hlayout := layout_positiveGeneral (denominator_pos x)
      (denominator_le_numerator_mul (eq_false_of_ne_true hzero))
    dsimp only
    rw [String.toList_ofList]
    split
    · have hminus := hlayout.isNumeral .minus
      rwa [List.singleton_append] at hminus
    · have hnone := hlayout.isNumeral .none
      rwa [List.nil_append] at hnone

/-- **The text of a whole number is a numeral that is worth the number.** -/
theorem exists_spelled_intText (n : Int64) :
    ∃ numeral, Spelled numeral (intText n).toList ∧ numeral.toNumber = .int n := by
  have hworth : ∀ {negative : Bool} {digits : List Char},
      signed negative (digitsValue digits) = n.toInt →
        (Numeral.whole negative digits).toNumber = .int n := by
    intro negative digits hvalue
    have hfits : Int64.minValue.toInt ≤ n.toInt ∧ n.toInt ≤ Int64.maxValue.toInt :=
      ⟨n.minValue_le_toInt, n.toInt_le⟩
    simp only [toNumber, toInt64?, hvalue, if_pos hfits, Int64.ofInt_toInt, Option.elim_some]
  unfold intText
  rw [Int.repr_eq_if]
  split
  · next hnonneg =>
    refine ⟨.whole false (Nat.toDigits 10 n.toInt.toNat), ?_, hworth ?_⟩
    · rw [Nat.repr_eq_ofList_toDigits, String.toList_ofList]
      exact .whole .none (.whole (digits_toDigits _))
    · rw [digitsValue_toDigits]
      exact Int.toNat_of_nonneg hnonneg
  · next hnegative =>
    refine ⟨.whole true (Nat.toDigits 10 (-n.toInt).toNat), ?_, hworth ?_⟩
    · have hmantissa := Mantissa.whole (digits_toDigits (-n.toInt).toNat)
      simpa [Nat.repr_eq_ofList_toDigits] using Spelled.whole .minus hmantissa
    · rw [digitsValue_toDigits, signed, if_pos rfl, Int.toNat_of_nonneg (by omega), neg_neg]

/-! ## Reading back -/

namespace NumericPrefix

theorem scan?_intText (n : Int64) : scan? (intText n) = some ⟨.int n, true, true⟩ := by
  obtain ⟨numeral, hspelled, hworth⟩ := exists_spelled_intText n
  rw [hspelled.scan?_eq, hworth]

theorem exists_scan?_toGeneral (x : Float64) :
    ∃ number, scan? x.toGeneral = some ⟨number, true, true⟩ := by
  obtain ⟨numeral, hspelled⟩ := x.isNumeral_toGeneral
  exact ⟨_, hspelled.scan?_eq⟩

/-- What is found and read to its end is not warned about. -/
theorem datumNumber_of_scan? {text : String} {number : Number}
    (h : scan? text = some ⟨number, true, true⟩) (world : World) :
    world.datumNumber (.text text) = ⟨number, []⟩ := by
  simp [World.datumNumber, ofText, h, isLossy]

/-- **The text of a number is read back as a number.** The text of a whole number is read as that
number and the text of a floating point number, be it a zero, an infinity or NaN, as a number; both
are found and read to their end. So the text of a number, taken as a number, gives no warning. -/
theorem ofText_readsBack :
    (∀ n : Int64, scan? (intText n) = some ⟨.int n, true, true⟩ ∧
      ofText (intText n) = ⟨.int n, true, true⟩) ∧
    (∀ x : Float64, ∃ number, scan? x.toGeneral = some ⟨number, true, true⟩ ∧
      ofText x.toGeneral = ⟨number, true, true⟩) ∧
    ∀ world : World,
      (∀ n, world.datumNumber (.text (world.datumText (.int n)).value) = ⟨.int n, []⟩) ∧
      ∀ x, ∃ number,
        world.datumNumber (.text (world.datumText (.float x)).value) = ⟨number, []⟩ := by
  refine ⟨fun n => ?_, fun x => ?_, fun world => ⟨fun n => ?_, fun x => ?_⟩⟩
  · have hscan := scan?_intText n
    exact ⟨hscan, by rw [ofText, hscan]; rfl⟩
  · obtain ⟨number, hscan⟩ := exists_scan?_toGeneral x
    exact ⟨number, hscan, by rw [ofText, hscan]; rfl⟩
  · exact datumNumber_of_scan? (scan?_intText n) world
  · obtain ⟨number, hscan⟩ := exists_scan?_toGeneral x
    exact ⟨number, datumNumber_of_scan? hscan world⟩

end NumericPrefix

end DynamicValues
