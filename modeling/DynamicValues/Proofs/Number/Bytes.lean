import Mathlib
import DynamicValues.Number.Prefix
import DynamicValues.Proofs.Number.Grammar
import DynamicValues.Proofs.Text.Places

/-!
# Scanning by bytes

The reading of a number goes through the bytes of a text and cuts pieces out of it by byte offsets.
Every offset that it comes to is a place, because what it has passed is ASCII: a cut from one place
to a later one succeeds (`slice?_append`), and what the bytes tell at a place is what the characters
behind it tell (`getElem?_encode`). So the scan by bytes finds the parts of a numeral where the
reader of characters does.
-/

set_option autoImplicit false

namespace DynamicValues

open String (utf8Len)

/-! ## Bytes and characters -/

/-- The bytes of characters. -/
def encode (cs : List Char) : List UInt8 := cs.flatMap String.utf8EncodeChar

theorem toUTF8_ofList (cs : List Char) : (String.ofList cs).toUTF8.data.toList = encode cs := by
  rw [String.toUTF8, String.toByteArray_ofList, List.utf8Encode]
  simp [encode]

theorem length_encode (cs : List Char) : (encode cs).length = utf8Len cs := by
  induction cs with
  | nil => rfl
  | cons c cs ih =>
    rw [encode, List.flatMap_cons, List.length_append, String.length_utf8EncodeChar,
      String.utf8Len_cons, ← encode, ih, Nat.add_comm]

theorem drop_encode (before after : List Char) :
    (encode (before ++ after)).drop (utf8Len before) = encode after := by
  rw [encode, List.flatMap_append, ← length_encode, ← encode, List.drop_left, ← encode]

theorem utf8EncodeChar_of_lt {c : Char} (h : c.toNat < 128) :
    String.utf8EncodeChar c = [c.toUInt8] := by
  rw [String.utf8EncodeChar.eq_1, if_pos (show c.val.toNat ≤ 127 from Nat.le_of_lt_succ h)]
  rfl

/-- The first byte of any other character is none of an ASCII character. -/
theorem exists_utf8EncodeChar_of_le {c : Char} (h : 128 ≤ c.toNat) :
    ∃ byte rest, String.utf8EncodeChar c = byte :: rest ∧ 128 ≤ byte.toNat := by
  rw [String.utf8EncodeChar.eq_1, if_neg (show ¬ c.val.toNat ≤ 127 from Nat.not_le_of_lt h)]
  split_ifs
  · refine ⟨_, _, rfl, ?_⟩
    rw [UInt8.toNat_ofNat']
    omega
  · refine ⟨_, _, rfl, ?_⟩
    rw [UInt8.toNat_ofNat']
    omega
  · refine ⟨_, _, rfl, ?_⟩
    rw [UInt8.toNat_ofNat']
    omega

theorem toNat_toUInt8 {c : Char} (h : c.toNat < 128) : c.toUInt8.toNat = c.toNat := by
  have hmod : c.toUInt8.toNat = c.toNat % 256 := rfl
  omega

/-- Where a character of ASCII comes next is told by its byte. -/
theorem getElem?_encode {c : Char} (hc : c.toNat < 128) (before after : List Char) :
    (encode (before ++ after))[utf8Len before]? = some c.toUInt8 ↔ after.head? = some c := by
  have hhead : (encode (before ++ after))[utf8Len before]? = (encode after).head? := by
    rw [← drop_encode before after, List.head?_drop]
  rw [hhead]
  cases after with
  | nil => simp [encode]
  | cons d after =>
    rw [encode, List.flatMap_cons, List.head?_cons]
    rcases Nat.lt_or_ge d.toNat 128 with hd | hd
    · rw [utf8EncodeChar_of_lt hd, List.singleton_append, List.head?_cons, Option.some.injEq,
        Option.some.injEq, ← UInt8.toNat_inj, toNat_toUInt8 hc, toNat_toUInt8 hd, Char.toNat_inj]
    · obtain ⟨byte, rest, hbytes, hbyte⟩ := exists_utf8EncodeChar_of_le hd
      rw [hbytes, List.cons_append, List.head?_cons, Option.some.injEq, Option.some.injEq,
        ← UInt8.toNat_inj, toNat_toUInt8 hc]
      constructor
      · intro h
        omega
      · rintro rfl
        omega

/-- Characters of one byte each. -/
theorem utf8Len_of_forall_lt {cs : List Char} (h : ∀ c ∈ cs, c.toNat < 128) :
    utf8Len cs = cs.length := by
  refine Subject.utf8Len_of_forall_one fun c hc => ?_
  rw [Char.utf8Size_eq_one_iff, UInt32.le_iff_toNat_le]
  exact Nat.le_of_lt_succ (h c hc)

/-! ## Cuts -/

theorem isValid_iff {cs : List Char} {place : Nat} :
    String.Pos.Raw.isValid (String.ofList cs) ⟨place⟩ = true ↔
      ∃ before after, cs = before ++ after ∧ place = utf8Len before := by
  rw [String.Pos.Raw.isValid_eq_true_iff, String.Pos.Raw.isValid_iff_exists_append]
  constructor
  · rintro ⟨first, second, heq, hplace⟩
    refine ⟨first.toList, second.toList, ?_, ?_⟩
    · rw [← String.toList_append, ← heq, String.toList_ofList]
    · rw [String.utf8Len_toList]
      exact congrArg String.Pos.Raw.byteIdx hplace
  · rintro ⟨before, after, rfl, rfl⟩
    refine ⟨String.ofList before, String.ofList after, String.ofList_append, ?_⟩
    rw [String.Pos.Raw.ext_iff]
    change utf8Len before = (String.ofList before).utf8ByteSize
    rw [← String.utf8Len_toList, String.toList_ofList]

/-- **A cut between two places succeeds.** -/
theorem slice?_append (before middle after : List Char) :
    slice? (String.ofList (before ++ middle ++ after)) (utf8Len before)
      (utf8Len (before ++ middle)) = some (String.ofList middle) := by
  have hstart := isValid_iff.2 ⟨before, middle ++ after, List.append_assoc .., rfl⟩
  have hstop := isValid_iff.2 ⟨before ++ middle, after, rfl, rfl⟩
  have hextract := String.extract_of_valid before middle after
  rw [← String.utf8Len_append] at hextract
  have hle : utf8Len before ≤ utf8Len (before ++ middle) := by
    rw [String.utf8Len_append]
    exact Nat.le_add_right _ _
  unfold slice?
  rw [hstart, hstop, hextract, decide_eq_true hle]
  rfl

theorem slice?_rest (before after : List Char) :
    slice? (String.ofList (before ++ after)) (utf8Len before)
      (String.ofList (before ++ after)).utf8ByteSize = some (String.ofList after) := by
  have hcut := slice?_append before after []
  rwa [List.append_nil, ← String.toList_ofList (l := before ++ after), String.utf8Len_toList,
    String.toList_ofList] at hcut

theorem slice?_front (front after : List Char) :
    slice? (String.ofList (front ++ after)) 0 (utf8Len front) = some (String.ofList front) :=
  slice?_append [] front after

/-- What a cut from the start takes. -/
theorem exists_of_slice?_zero {cs : List Char} {head : String} {stop : Nat}
    (h : slice? (String.ofList cs) 0 stop = some head) :
    ∃ after, cs = head.toList ++ after ∧ utf8Len head.toList = stop := by
  have hcut := h
  unfold slice? at hcut
  split at hcut
  · next hvalid =>
    obtain ⟨before, after, rfl, rfl⟩ := isValid_iff.1 (Bool.and_eq_true _ _ ▸ hvalid).2
    have hbefore := slice?_append [] before after
    rw [List.nil_append, String.utf8Len_nil, h] at hbefore
    obtain rfl := Option.some.inj hbefore
    exact ⟨after, by simp, by simp⟩
  · exact absurd hcut (by simp)

namespace NumericPrefix

open Numeral

/-! ## What the bytes tell -/

theorem isDigitByte_toUInt8 {c : Char} (hc : c.toNat < 128) :
    isDigitByte c.toUInt8 = c.isDigit := by
  have hbyte := toNat_toUInt8 hc
  rw [Bool.eq_iff_iff]
  simp only [isDigitByte, Char.isDigit, Bool.and_eq_true, decide_eq_true_eq, UInt8.le_iff_toNat_le,
    UInt32.le_iff_toNat_le, ge_iff_le, hbyte]
  exact Iff.rfl

theorem isDigitByte_of_le {byte : UInt8} (h : 128 ≤ byte.toNat) : isDigitByte byte = false := by
  have hnine : ¬ byte ≤ '9'.toUInt8 := by
    rw [UInt8.le_iff_toNat_le, show '9'.toUInt8.toNat = 57 from rfl]
    omega
  simp [isDigitByte, hnine]

theorem toNat_lt_of_isDigit {c : Char} (h : c.isDigit = true) : c.toNat < 128 := by
  exact Nat.lt_of_le_of_lt (toNat_of_isDigit h).2 (by decide)

theorem utf8Len_digits {digits : List Char} (h : ∀ c ∈ digits, c.isDigit = true) :
    utf8Len digits = digits.length :=
  utf8Len_of_forall_lt fun c hc => toNat_lt_of_isDigit (h c hc)

theorem countDigits_encode (before after : List Char) :
    countDigits (encode (before ++ after)) (utf8Len before) =
      (after.takeWhile Char.isDigit).length := by
  rw [countDigits, drop_encode]
  induction after with
  | nil => rfl
  | cons c after ih =>
    rw [encode, List.flatMap_cons, ← encode]
    rcases Nat.lt_or_ge c.toNat 128 with hc | hc
    · rw [utf8EncodeChar_of_lt hc, List.singleton_append, List.takeWhile_cons,
        List.takeWhile_cons, isDigitByte_toUInt8 hc]
      split
      · rw [List.length_cons, List.length_cons, ih]
      · rfl
    · obtain ⟨byte, rest, hbytes, hbyte⟩ := exists_utf8EncodeChar_of_le hc
      have hdigit : c.isDigit = false := by
        by_contra h
        exact absurd (toNat_lt_of_isDigit (by simpa using h)) (by omega)
      simp [hbytes, isDigitByte_of_le hbyte, hdigit]

/-- The offset behind some digits. -/
theorem utf8Len_append_digits (before : List Char) {digits : List Char}
    (h : ∀ c ∈ digits, c.isDigit = true) :
    utf8Len before + digits.length = utf8Len (before ++ digits) := by
  rw [String.utf8Len_append, utf8Len_digits h]

variable {before after rest : List Char} {negative : Bool}

theorem sign_encode (h : splitSign after = (negative, rest)) (before : List Char) :
    ∃ sign, Sign negative sign ∧ after = sign ++ rest ∧
      utf8Len before + signLength (encode (before ++ after)) (utf8Len before) =
        utf8Len (before ++ sign) ∧
      ((encode (before ++ after))[utf8Len before]? = some '-'.toUInt8 ↔ negative = true) := by
  have hplus := getElem?_encode (show '+'.toNat < 128 by decide) before after
  have hminus := getElem?_encode (show '-'.toNat < 128 by decide) before after
  unfold signLength
  simp only [hplus, hminus]
  unfold splitSign at h
  split at h
  · obtain ⟨rfl, rfl⟩ := Prod.mk.inj h
    exact ⟨_, .plus, rfl, by simp; rfl, by simp⟩
  · obtain ⟨rfl, rfl⟩ := Prod.mk.inj h
    exact ⟨_, .minus, rfl, by simp; rfl, by simp⟩
  · next hnoPlus hnoMinus =>
    obtain ⟨rfl, rfl⟩ := Prod.mk.inj h
    have hplus' : after.head? ≠ some '+' := fun hhead => by
      obtain ⟨tail, rfl⟩ := List.head?_eq_some_iff.1 hhead
      exact hnoPlus tail rfl
    have hminus' : after.head? ≠ some '-' := fun hhead => by
      obtain ⟨tail, rfl⟩ := List.head?_eq_some_iff.1 hhead
      exact hnoMinus tail rfl
    exact ⟨[], .none, rfl, by simp [hplus', hminus'], by simp [hminus']⟩

theorem mantissaEnd?_point {digits tail : List Char} (hdigits : ∀ c ∈ digits, c.isDigit = true)
    (before : List Char) :
    mantissaEnd? (encode (before ++ (digits ++ '.' :: tail))) (utf8Len before) =
      if digits = [] ∧ tail.takeWhile Char.isDigit = [] then none
      else some (utf8Len (before ++ (digits ++ '.' :: tail.takeWhile Char.isDigit)), true) := by
  have hpoint := getElem?_encode (show '.'.toNat < 128 by decide) (before ++ digits) ('.' :: tail)
  have htail := countDigits_encode (before ++ digits ++ ['.']) tail
  have hplace : utf8Len (before ++ digits) + 1 = utf8Len (before ++ digits ++ ['.']) := by
    rw [String.utf8Len_append (before ++ digits)]
    rfl
  rw [List.append_assoc, List.append_assoc, List.singleton_append] at htail
  rw [List.append_assoc] at hpoint
  unfold mantissaEnd?
  rw [countDigits_encode, takeWhile_digits hdigits, List.takeWhile_cons_of_neg (by decide),
    List.append_nil]
  dsimp only
  rw [utf8Len_append_digits before hdigits, if_pos (hpoint.2 rfl), hplace, htail,
    utf8Len_append_digits _ fun c hc => isDigit_of_mem_takeWhile hc]
  have hiff : (digits.length > 0 ∨ (tail.takeWhile Char.isDigit).length > 0) ↔
      ¬ (digits = [] ∧ tail.takeWhile Char.isDigit = []) := by
    rw [gt_iff_lt, gt_iff_lt, List.length_pos_iff, List.length_pos_iff, not_and_or]
  simp only [hiff, ite_not, List.append_assoc, List.singleton_append]

theorem mantissaEnd?_stops {digits tail : List Char} (hdigits : ∀ c ∈ digits, c.isDigit = true)
    (hstops : Stops tail) (before : List Char) :
    mantissaEnd? (encode (before ++ (digits ++ tail))) (utf8Len before) =
      if digits = [] then none else some (utf8Len (before ++ digits), false) := by
  have hpoint := getElem?_encode (show '.'.toNat < 128 by decide) (before ++ digits) tail
  have hnone : ¬ tail.head? = some '.' := fun h => (hstops '.' h).2 rfl
  rw [List.append_assoc] at hpoint
  unfold mantissaEnd?
  rw [countDigits_encode, takeWhile_digits hdigits, hstops.takeWhile, List.append_nil]
  dsimp only
  rw [utf8Len_append_digits before hdigits, if_neg (fun h => hnone (hpoint.1 h))]
  cases digits with
  | nil => rfl
  | cons c digits => rfl

/-- The bytes tell the mantissa that the characters tell. -/
theorem mantissaEnd?_of_none (h : readMantissa? after = none) (before : List Char) :
    mantissaEnd? (encode (before ++ after)) (utf8Len before) = none := by
  obtain ⟨digits, behind, rfl, hdigits, ⟨tail, rfl⟩ | hstops⟩ := exists_digits after
  · rw [readMantissa?_point hdigits, ite_eq_left_iff] at h
    rw [mantissaEnd?_point hdigits, if_pos]
    by_contra hsome
    exact absurd (h hsome) (by simp)
  · rw [readMantissa?_stops hdigits hstops, ite_eq_left_iff] at h
    rw [mantissaEnd?_stops hdigits hstops, if_pos]
    by_contra hsome
    exact absurd (h hsome) (by simp)

theorem mantissaEnd?_of_some {digits : List Char} {fraction : Option (List Char)}
    (h : readMantissa? after = some (digits, fraction, rest)) (before : List Char) :
    ∃ mantissa, after = mantissa ++ rest ∧
      mantissaEnd? (encode (before ++ after)) (utf8Len before) =
        some (utf8Len (before ++ mantissa), fraction.isSome) := by
  obtain ⟨front, behind, rfl, hfront, ⟨tail, rfl⟩ | hstops⟩ := exists_digits after
  · rw [readMantissa?_point hfront] at h
    rw [mantissaEnd?_point hfront]
    split at h
    · exact absurd h (by simp)
    · next hsome =>
      obtain ⟨rfl, rfl, rfl⟩ : front = digits ∧ some (tail.takeWhile Char.isDigit) = fraction ∧
          tail.dropWhile Char.isDigit = rest := by simpa using h
      have hsplit : tail.takeWhile Char.isDigit ++ tail.dropWhile Char.isDigit = tail :=
        List.takeWhile_append_dropWhile
      exact ⟨_, by simp [hsplit], if_neg hsome⟩
  · rw [readMantissa?_stops hfront hstops] at h
    rw [mantissaEnd?_stops hfront hstops]
    split at h
    · exact absurd h (by simp)
    · next hsome =>
      obtain ⟨rfl, rfl, rfl⟩ : front = digits ∧ none = fraction ∧ behind = rest := by
        simpa using h
      exact ⟨_, rfl, if_neg hsome⟩

theorem exponentEnd?_mark {mark : Char} {tail behind : List Char}
    (hmark : mark = 'e' ∨ mark = 'E') (hsplit : splitSign tail = (negative, behind))
    (before : List Char) :
    ∃ sign, Sign negative sign ∧ tail = sign ++ behind ∧
      exponentEnd? (encode (before ++ mark :: tail)) (utf8Len before) =
        if behind.takeWhile Char.isDigit = [] then none
        else some (utf8Len (before ++ mark :: (sign ++ behind.takeWhile Char.isDigit))) := by
  have hascii : mark.toNat < 128 := by rcases hmark with rfl | rfl <;> decide
  have hplace : utf8Len before + 1 = utf8Len (before ++ [mark]) := by
    rw [String.utf8Len_append, utf8Len_of_forall_lt (List.forall_mem_singleton.2 hascii)]
    rfl
  have hbyte : (encode (before ++ mark :: tail))[utf8Len before]? = some 'e'.toUInt8 ∨
      (encode (before ++ mark :: tail))[utf8Len before]? = some 'E'.toUInt8 := by
    rw [getElem?_encode (by decide), getElem?_encode (by decide)]
    simpa using hmark
  obtain ⟨sign, hsign, rfl, hcursor, -⟩ := sign_encode hsplit (before ++ [mark])
  refine ⟨sign, hsign, rfl, ?_⟩
  have hcount := countDigits_encode (before ++ [mark] ++ sign) behind
  simp only [List.append_assoc, List.cons_append, List.nil_append] at hcursor hcount
  unfold exponentEnd?
  rw [if_pos hbyte, hplace, hcursor]
  dsimp only
  rw [hcount, utf8Len_append_digits _ fun c hc => isDigit_of_mem_takeWhile hc]
  simp only [gt_iff_lt, List.length_pos_iff, ne_eq, ite_not, List.append_assoc, List.cons_append]

theorem exponentEnd?_other (h : ¬ (after.head? = some 'e' ∨ after.head? = some 'E'))
    (before : List Char) : exponentEnd? (encode (before ++ after)) (utf8Len before) = none := by
  rw [exponentEnd?, if_neg]
  rwa [getElem?_encode (by decide), getElem?_encode (by decide)]

/-- The bytes tell the exponent that the characters tell. -/
theorem exponentEnd?_of_none (h : readExponent? after = none) (before : List Char) :
    exponentEnd? (encode (before ++ after)) (utf8Len before) = none := by
  obtain ⟨mark, tail, rfl, hmark⟩ | hother := mark_cases after
  · rcases hsplit : splitSign tail with ⟨negative, behind⟩
    obtain ⟨sign, -, -, hend⟩ := exponentEnd?_mark hmark hsplit before
    rw [readExponent?_mark hmark hsplit, ite_eq_left_iff] at h
    rw [hend, if_pos]
    by_contra hsome
    exact absurd (h hsome) (by simp)
  · exact exponentEnd?_other hother before

theorem exponentEnd?_of_some {exponent : Int} (h : readExponent? after = some (exponent, rest))
    (before : List Char) :
    ∃ power, after = power ++ rest ∧
      exponentEnd? (encode (before ++ after)) (utf8Len before) = some (utf8Len (before ++ power)) := by
  obtain ⟨mark, tail, rfl, hmark⟩ | hother := mark_cases after
  · rcases hsplit : splitSign tail with ⟨negative, behind⟩
    obtain ⟨sign, -, rfl, hend⟩ := exponentEnd?_mark hmark hsplit before
    rw [readExponent?_mark hmark hsplit] at h
    split at h
    · exact absurd h (by simp)
    · next hne =>
      obtain ⟨-, rfl⟩ := Prod.mk.inj (Option.some.inj h)
      exact ⟨_, by simp [List.takeWhile_append_dropWhile], hend.trans (if_neg hne)⟩
  · rw [readExponent?_other hother] at h
    exact absurd h (by simp)

/-! ## Words -/

theorem isPrefixOf_eq (word text : List Char) :
    word.isPrefixOf (text.map Char.toLower) = (dropWord? word text).isSome := by
  rw [Bool.eq_iff_iff, List.isPrefixOf_iff_prefix, Option.isSome_iff_exists]
  constructor
  · rintro ⟨tail, htail⟩
    obtain ⟨front, rest, rfl, hfront, -⟩ := List.map_eq_append_iff.1 htail.symm
    exact ⟨rest, dropWord?_eq_some_iff.2 ⟨front, hfront, rfl⟩⟩
  · rintro ⟨rest, hrest⟩
    obtain ⟨front, rfl, rfl⟩ := dropWord?_eq_some_iff.1 hrest
    rw [List.map_append]
    exact List.prefix_append _ _

/-- What is a small letter in lower case is of ASCII. -/
theorem toNat_lt_of_toLower {c w : Char} (hw : w.toNat < 128) (h : c.toLower = w) :
    c.toNat < 128 := by
  by_cases hupper : c.isUpper = true
  · simp only [Char.isUpper, decide_eq_true_eq, UInt32.le_iff_toNat_le] at hupper
    exact Nat.lt_of_le_of_lt hupper.2 (by decide)
  · rw [Char.toLower_eq_of_not_isUpper hupper] at h
    rwa [h]

theorem utf8Len_of_dropWord? {word text rest : List Char} (hword : ∀ w ∈ word, w.toNat < 128)
    (h : dropWord? word text = some rest) :
    ∃ front, text = front ++ rest ∧ utf8Len front = word.length := by
  obtain ⟨front, rfl, rfl⟩ := dropWord?_eq_some_iff.1 h
  refine ⟨front, rfl, ?_⟩
  rw [utf8Len_of_forall_lt, List.length_map]
  exact fun c hc => toNat_lt_of_toLower (hword _ (List.mem_map_of_mem hc)) rfl

/-- Of two beginnings of a text the one with fewer bytes is the shorter one. -/
theorem prefix_of_utf8Len_le {first second text : List Char} (hfirst : first <+: text)
    (hsecond : second <+: text) (hle : utf8Len first ≤ utf8Len second) : first <+: second := by
  refine List.prefix_of_prefix_length_le hfirst hsecond ?_
  by_contra hlt
  obtain ⟨extra, rfl⟩ := List.prefix_of_prefix_length_le hsecond hfirst (by omega)
  cases extra with
  | nil => simp at hlt
  | cons c extra =>
    have := Char.utf8Size_pos c
    rw [String.utf8Len_append, String.utf8Len_cons] at hle
    omega

/-- The first eight bytes tell a word of no more letters, and so does the whole text. -/
theorem isPrefixOf_head (word : List Char) (hword : ∀ w ∈ word, w.toNat < 128)
    (hlength : word.length ≤ 8) (text : List Char) :
    word.isPrefixOf (((slice? (String.ofList text) 0
      (min (String.ofList text).utf8ByteSize 8)).getD (String.ofList text)).toList.map
        Char.toLower) = word.isPrefixOf (text.map Char.toLower) := by
  cases hcut : slice? (String.ofList text) 0 (min (String.ofList text).utf8ByteSize 8) with
  | none => simp
  | some head =>
    obtain ⟨after, rfl, hstop⟩ := exists_of_slice?_zero hcut
    rw [Option.getD_some, isPrefixOf_eq, isPrefixOf_eq, Bool.eq_iff_iff,
      Option.isSome_iff_exists, Option.isSome_iff_exists]
    constructor
    · rintro ⟨rest, hrest⟩
      obtain ⟨front, hfront, hhead⟩ := dropWord?_eq_some_iff.1 hrest
      exact ⟨rest ++ after, dropWord?_eq_some_iff.2 ⟨front, hfront, by rw [hhead, List.append_assoc]⟩⟩
    · -- The word takes a byte for each letter, so it ends within the first eight.
      rintro ⟨rest, hrest⟩
      obtain ⟨front, hfront, htext⟩ := dropWord?_eq_some_iff.1 hrest
      have hfrontLength : utf8Len front = word.length := by
        obtain ⟨front', htext', hlength⟩ := utf8Len_of_dropWord? hword hrest
        rw [List.append_cancel_right (htext.symm.trans htext'), hlength]
      have hsize : (String.ofList (head.toList ++ after)).utf8ByteSize =
          utf8Len front + utf8Len rest := by
        rw [← String.utf8Len_toList, String.toList_ofList, htext, String.utf8Len_append]
      have hprefix : front <+: head.toList ++ after := ⟨rest, htext.symm⟩
      obtain ⟨tail, htail⟩ := prefix_of_utf8Len_le hprefix (List.prefix_append _ _) (by omega)
      exact ⟨tail, dropWord?_eq_some_iff.2 ⟨front, hfront, htail.symm⟩⟩

theorem word?_eq (text : List Char) :
    word? (String.ofList text) =
      if (dropWord? "infinity".toList text).isSome then some (.infinity false, 8)
      else if (dropWord? "inf".toList text).isSome then some (.infinity false, 3)
      else if (dropWord? "nan".toList text).isSome then some (.nan, 3)
      else none := by
  unfold word?
  dsimp only
  rw [isPrefixOf_head "infinity".toList (by simp) (by simp),
    isPrefixOf_head "inf".toList (by simp) (by simp),
    isPrefixOf_head "nan".toList (by simp) (by simp), isPrefixOf_eq, isPrefixOf_eq, isPrefixOf_eq]

/-- The word that the bytes tell is the one that the characters tell. -/
theorem word?_of_none (h : readWord? negative after = none) : word? (String.ofList after) = none := by
  unfold readWord? at h
  rw [word?_eq]
  cases hlong : dropWord? "infinity".toList after with
  | some rest => exact absurd h (by rw [hlong]; simp)
  | none =>
    cases hshort : dropWord? "inf".toList after with
    | some rest => exact absurd h (by rw [hlong, hshort]; simp)
    | none =>
      rw [hlong, hshort, Option.map_eq_none_iff] at h
      rw [h]
      rfl

theorem word?_of_some {numeral : Numeral} (h : readWord? negative after = some (numeral, rest)) :
    ∃ word value, after = word ++ rest ∧
      word? (String.ofList after) = some (value, utf8Len word) ∧ numeral.toInt64? = none ∧
      numeral.toFloat = if negative then value.negate else value := by
  unfold readWord? at h
  rw [word?_eq]
  split at h
  · next hlong =>
    obtain ⟨rfl, rfl⟩ := Prod.mk.inj (Option.some.inj h)
    obtain ⟨word, rfl, hlength⟩ := utf8Len_of_dropWord? (by simp) hlong
    refine ⟨word, .infinity false, rfl, ?_, rfl, by cases negative <;> rfl⟩
    rw [hlong, hlength]
    rfl
  next hlong =>
  split at h
  · next hshort =>
    obtain ⟨rfl, rfl⟩ := Prod.mk.inj (Option.some.inj h)
    obtain ⟨word, rfl, hlength⟩ := utf8Len_of_dropWord? (by simp) hshort
    refine ⟨word, .infinity false, rfl, ?_, rfl, by cases negative <;> rfl⟩
    rw [hlong, hshort, hlength]
    rfl
  · next hshort =>
    obtain ⟨rest, hnan, heq⟩ := Option.map_eq_some_iff.1 h
    obtain ⟨rfl, rfl⟩ := Prod.mk.inj heq
    obtain ⟨word, rfl, hlength⟩ := utf8Len_of_dropWord? (by simp) hnan
    refine ⟨word, .nan, rfl, ?_, rfl, by cases negative <;> rfl⟩
    rw [hlong, hshort, hnan, hlength]
    rfl

end NumericPrefix

end DynamicValues
