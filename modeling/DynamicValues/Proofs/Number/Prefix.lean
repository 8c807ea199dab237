import Mathlib
import DynamicValues.Proofs.Number.Bytes
import DynamicValues.Proofs.Number.Nearest

/-!
# Reading a text as a number

The scan of a text answers the numeral that the reader of characters finds behind the leading blanks
(`scan?_of_some`, `scan?_of_none`), and the number is what that numeral is worth (`Spelled.worth`).
With the grammar this says which texts are read as which numbers (`ofText_longest`).
-/

set_option autoImplicit false

namespace DynamicValues

open String (utf8Len)

/-- The number that a numeral is worth. -/
def Numeral.toNumber (numeral : Numeral) : Number :=
  numeral.toInt64?.elim (.float numeral.toFloat) .int

namespace NumericPrefix

open Numeral

variable {text : String} {rest : List Char}

/-! ## The reading -/

/-- The bytes tell where a numeral of digits ends, and they tell a point or an exponent only where
the numeral has one. -/
theorem digits_encode {numeral : Numeral} {negative : Bool} {behind : List Char}
    (h : readDigits? negative behind = some (numeral, rest)) (sign : List Char) :
    ∃ stop pointed lexeme, behind = lexeme ++ rest ∧
      mantissaEnd? (encode (sign ++ behind)) (utf8Len sign) = some (stop, pointed) ∧
      (exponentEnd? (encode (sign ++ behind)) stop).getD stop = utf8Len (sign ++ lexeme) ∧
      ((pointed || (exponentEnd? (encode (sign ++ behind)) stop).isSome) = true →
        numeral.toInt64? = none) := by
  obtain ⟨⟨digits, fraction, tail⟩, hmantissa, heq⟩ := Option.map_eq_some_iff.1 h
  obtain ⟨mantissa, rfl, hend⟩ := mantissaEnd?_of_some hmantissa sign
  rw [← List.append_assoc] at hend ⊢
  cases hexponent : readExponent? tail with
  | none =>
    have hnone := exponentEnd?_of_none hexponent (sign ++ mantissa)
    refine ⟨_, _, mantissa, ?_, hend, by rw [hnone]; rfl, ?_⟩
    · cases fraction <;> simp_all
    · rw [hnone, Option.isSome_none, Bool.or_false]
      cases fraction with
      | none => simp
      | some fraction =>
        obtain ⟨rfl, -⟩ : decimal negative digits fraction 0 = numeral ∧ tail = rest := by
          simpa [hexponent] using heq
        exact fun _ => rfl
  | some found =>
    obtain ⟨exponent, last⟩ := found
    obtain ⟨power, rfl, hsome⟩ := exponentEnd?_of_some hexponent (sign ++ mantissa)
    obtain ⟨rfl, rfl⟩ : decimal negative digits (fraction.getD []) exponent = numeral ∧
        last = rest := by simpa [hexponent] using heq
    refine ⟨_, _, mantissa ++ power, (List.append_assoc ..).symm, hend, ?_, fun _ => rfl⟩
    rw [hsome, Option.getD_some, List.append_assoc]

/-- The number that is read of a numeral alone is what it is worth. -/
theorem worth_eq {numeral : Numeral} {lexeme : List Char} (h : Spelled numeral lexeme)
    {isFloat : Bool} (hfloat : isFloat = true → numeral.toInt64? = none) :
    worth (String.ofList lexeme) isFloat = numeral.toNumber := by
  have htext : Numeral.ofText? (String.ofList lexeme) = some numeral := by
    refine Spelled.ofText?_eq ?_
    rwa [String.toList_ofList]
  unfold worth Float64.ofText? int64OfText? toNumber
  rw [htext]
  cases isFloat with
  | true => rw [hfloat rfl]; rfl
  | false => rfl

/-- What is read of a text that starts with a numeral. -/
theorem scan?_of_some {numeral : Numeral}
    (h : read? (text.toList.dropWhile isBlank) = some (numeral, rest)) :
    scan? text = some ⟨numeral.toNumber, true, rest.all isBlank⟩ := by
  unfold scan?
  generalize text.toList.dropWhile isBlank = trimmed at h
  obtain ⟨lexeme, hspelled, htrimmed⟩ := spelled_of_read? h
  unfold read? at h
  rcases hsplit : splitSign trimmed with ⟨negative, behind⟩
  obtain ⟨sign, hsign, rfl, hstart, hminus⟩ := sign_encode hsplit []
  simp only [List.nil_append, String.utf8Len_nil, Nat.zero_add] at hstart hminus
  rw [hsplit] at h
  dsimp only at h ⊢
  -- The first cut is behind the sign.
  rw [toUTF8_ofList, hstart, slice?_rest]
  simp only [bind, Option.bind_some]
  cases hword : readWord? negative behind with
  | some found =>
    rw [hword] at h
    obtain rfl := Option.some.inj h
    obtain ⟨word, value, rfl, hvalue, hint, hfloat⟩ := word?_of_some hword
    rw [hvalue]
    dsimp only
    rw [← String.utf8Len_append, ← List.append_assoc, slice?_rest, Option.bind_some,
      String.toList_ofList, List.append_assoc]
    simp only [hminus, toNumber, hint, hfloat, Option.elim_none]
  | none =>
    rw [hword] at h
    obtain ⟨stop, pointed, digits, rfl, hmantissa, hstop, hpointed⟩ := digits_encode h sign
    -- What is cut out is the numeral of the grammar, since the same rest is behind it.
    obtain rfl : sign ++ digits = lexeme := by
      rw [← List.append_assoc] at htrimmed
      exact List.append_cancel_right htrimmed
    rw [word?_of_none hword, hmantissa]
    dsimp only
    rw [hstop, ← List.append_assoc, slice?_front, slice?_rest]
    rw [← List.append_assoc] at hpointed
    simp only [Option.bind_some, String.toList_ofList, worth_eq hspelled hpointed]

/-- What is read of any other text. -/
theorem scan?_of_none (h : read? (text.toList.dropWhile isBlank) = none) :
    scan? text = some missing := by
  unfold scan?
  generalize text.toList.dropWhile isBlank = trimmed at h
  unfold read? at h
  rcases hsplit : splitSign trimmed with ⟨negative, behind⟩
  obtain ⟨sign, hsign, rfl, hstart, -⟩ := sign_encode hsplit []
  simp only [List.nil_append, String.utf8Len_nil, Nat.zero_add] at hstart
  rw [hsplit] at h
  dsimp only at h ⊢
  rw [toUTF8_ofList, hstart, slice?_rest]
  simp only [bind, Option.bind_some]
  cases hword : readWord? negative behind with
  | some found =>
    rw [hword] at h
    exact absurd h (by simp)
  | none =>
    rw [hword] at h
    rw [word?_of_none hword, mantissaEnd?_of_none (Option.map_eq_none_iff.1 h)]

end NumericPrefix

/-! ## What a numeral is worth -/

namespace Numeral

/-- The text is a numeral. -/
def IsNumeral (lexeme : List Char) : Prop := ∃ numeral, Spelled numeral lexeme

/-- What a numeral is worth: digits alone that number if it fits 64 bits, and everything else the
floating point number nearest to what is written. -/
inductive Worth : Numeral → Number → Prop where
  | infinity (negative : Bool) : Worth (.infinity negative) (.float (.infinity negative))
  | nan {negative : Bool} {x : Float64} (hnan : x.isNaN = true) : Worth (.nan negative) (.float x)
  | int {negative : Bool} {digits : List Char} {n : Int64}
      (hvalue : n.toInt = signed negative (digitsValue digits)) :
      Worth (.whole negative digits) (.int n)
  | wide {negative : Bool} {digits : List Char} {x : Float64}
      (hwide : signed negative (digitsValue digits) < Int64.minValue.toInt ∨
        Int64.maxValue.toInt < signed negative (digitsValue digits))
      (hnearest : x.IsNearest negative (digitsValue digits)) :
      Worth (.whole negative digits) (.float x)
  | decimal {negative : Bool} {digits fraction : List Char} {exponent : Int} {x : Float64}
      (hnearest : x.IsNearest negative
        (digitsValue (digits ++ fraction) * 10 ^ (exponent - fraction.length))) :
      Worth (.decimal negative digits fraction exponent) (.float x)

theorem foldl_digits_lt {digits : List Char} (h : ∀ c ∈ digits, c.isDigit = true) (n : Nat) :
    digits.foldl (fun n c => n * 10 + (c.toNat - '0'.toNat)) n < (n + 1) * 10 ^ digits.length := by
  induction digits generalizing n with
  | nil => simp
  | cons c digits ih =>
    have hc := sub_lt_of_isDigit (h c List.mem_cons_self)
    rw [List.foldl_cons, List.length_cons]
    refine (ih (fun d hd => h d (List.mem_cons_of_mem _ hd)) _).trans_le ?_
    calc (n * 10 + (c.toNat - '0'.toNat) + 1) * 10 ^ digits.length
        ≤ ((n + 1) * 10) * 10 ^ digits.length := Nat.mul_le_mul_right _ (by omega)
      _ = (n + 1) * 10 ^ (digits.length + 1) := by rw [pow_succ', Nat.mul_assoc]

/-- Digits tell how large a number can be. -/
theorem digitsValue_lt {digits : List Char} (h : ∀ c ∈ digits, c.isDigit = true) :
    digitsValue digits < 10 ^ digits.length := by
  have hfold := foldl_digits_lt h 0
  rwa [Nat.zero_add, Nat.one_mul] at hfold

theorem Mantissa.all {digits mantissa : List Char} {fraction : Option (List Char)}
    (h : Mantissa digits fraction mantissa) :
    ∀ c ∈ digits ++ fraction.getD [], c.isDigit = true := by
  intro c hc
  cases h with
  | whole hdigits => exact hdigits.all c (by simpa using hc)
  | pointed hdigits hfraction =>
    exact (List.mem_append.1 hc).elim (hdigits.all c) (hfraction c)
  | point hfraction => exact hfraction.all c hc

theorem worth_decimal {digits mantissa : List Char} {fraction : Option (List Char)}
    (h : Mantissa digits fraction mantissa) (negative : Bool) (exponent : Int) :
    Worth (.decimal negative digits (fraction.getD []) exponent)
      (toNumber (.decimal negative digits (fraction.getD []) exponent)) :=
  .decimal (Float64.isNearest_ofDecimal negative (digitsValue_lt h.all) _)

/-- **The number that is read of a numeral is what it is worth.** -/
theorem Spelled.worth {numeral : Numeral} {lexeme : List Char} (h : Spelled numeral lexeme) :
    Worth numeral numeral.toNumber := by
  cases h with
  | infinity _ _ => exact .infinity _
  | @nan negative _ _ _ _ => exact .nan (by cases negative <;> rfl)
  | @whole negative _ digits _ _ hmantissa =>
    rw [toNumber, toInt64?]
    split
    · next hfits =>
      exact .int (Int64.toInt_ofInt_of_le hfits.1 (Int.lt_add_one_of_le hfits.2))
    · next hwide =>
      have hnearest := Float64.isNearest_ofDecimal negative
        (digitsValue_lt (by simpa using hmantissa.all)) 0
      rw [zpow_zero, mul_one] at hnearest
      exact .wide (by omega) hnearest
  | pointed _ hmantissa => exact worth_decimal hmantissa _ 0
  | scaled _ hmantissa _ => exact worth_decimal hmantissa _ _

end Numeral

namespace NumericPrefix

open Numeral

/-- **Reading a text as a number takes the longest numeral behind its leading blanks.** The reading
always comes to an end: no cut is outside the text or inside a character. A numeral is found exactly
if there is one, and without one the number is 0. The one that is read is the longest, the number is
what it is worth, and the reading is complete exactly if only blanks follow. -/
theorem ofText_longest (text : String) :
    ∃ p, scan? text = some p ∧ ofText text = p ∧
      (p.found = true ↔
        ∃ lexeme rest, text.toList.dropWhile isBlank = lexeme ++ rest ∧ IsNumeral lexeme) ∧
      (p.found = false → p.number = .int 0 ∧ p.complete = false) ∧
      (p.found = true →
        ∃ lexeme rest, text.toList.dropWhile isBlank = lexeme ++ rest ∧ IsNumeral lexeme ∧
          (∀ lexeme' rest', text.toList.dropWhile isBlank = lexeme' ++ rest' → IsNumeral lexeme' →
            lexeme'.length ≤ lexeme.length) ∧
          (p.complete = true ↔ ∀ c ∈ rest, isBlank c = true) ∧
          ∀ numeral, Spelled numeral lexeme → Worth numeral p.number) := by
  cases hread : read? (text.toList.dropWhile isBlank) with
  | none =>
    have hscan := scan?_of_none hread
    refine ⟨missing, hscan, by rw [ofText, hscan]; rfl, ?_, fun _ => ⟨rfl, rfl⟩, ?_⟩
    · refine iff_of_false (by decide) ?_
      rintro ⟨lexeme, rest, hsplit, numeral, hspelled⟩
      obtain ⟨numeral', rest', hsome, -⟩ := hspelled.exists_read? rest
      rw [← hsplit, hread] at hsome
      exact absurd hsome (by simp)
    · exact fun hfound => absurd hfound (by decide)
  | some found =>
    obtain ⟨numeral, rest⟩ := found
    have hscan := scan?_of_some hread
    obtain ⟨lexeme, hspelled, hsplit⟩ := spelled_of_read? hread
    refine ⟨_, hscan, by rw [ofText, hscan]; rfl, ?_, ?_, fun _ => ?_⟩
    · exact iff_of_true rfl ⟨lexeme, rest, hsplit, numeral, hspelled⟩
    · exact fun hfound => absurd hfound (by simp)
    · refine ⟨lexeme, rest, hsplit, ⟨numeral, hspelled⟩, ?_, by simp, ?_⟩
      · rintro lexeme' rest' hsplit' ⟨numeral', hspelled'⟩
        obtain ⟨numeral'', rest'', hread', hlength, -⟩ := hspelled'.exists_read? rest'
        rw [← hsplit', hread] at hread'
        obtain ⟨-, rfl⟩ := Prod.mk.inj (Option.some.inj hread')
        have := congrArg List.length (hsplit.symm.trans hsplit')
        rw [List.length_append, List.length_append] at this
        omega
      · intro numeral' hspelled'
        -- Both numerals are what the lexeme alone is read as.
        have hsame := (String.toList_ofList (l := lexeme) ▸ hspelled).ofText?_eq
        have hsame' := (String.toList_ofList (l := lexeme) ▸ hspelled').ofText?_eq
        obtain rfl : numeral = numeral' := Option.some.inj (hsame.symm.trans hsame')
        exact hspelled.worth

/-- An exponent without a digit is left over. -/
example : scan? " 12e+é" = some ⟨.int 12, true, false⟩ :=
  scan?_of_some (show read? _ = some (.whole false ['1', '2'], ['e', '+', 'é']) from rfl)

end NumericPrefix

end DynamicValues
