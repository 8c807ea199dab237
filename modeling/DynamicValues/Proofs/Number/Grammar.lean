import Mathlib
import DynamicValues.Number.Numeral

/-!
# The grammar of numerals

`Numeral.Spelled` is the grammar: which texts are a numeral, and which numeral each of them is. The
reader takes **the longest one that a text starts with**: what it takes is spelled as the numeral it
answers (`spelled_of_read?`), and it takes at least as much as any other that the text starts with
(`Spelled.read?`).

A text spells one numeral at most (`Spelled.ofText?_eq`): signs, digits, the point and the letters
leave no choice.
-/

set_option autoImplicit false

namespace DynamicValues

namespace Numeral

/-! ## The grammar -/

inductive Sign : Bool → List Char → Prop where
  | none : Sign false []
  | plus : Sign false ['+']
  | minus : Sign true ['-']

/-- One digit or more. -/
structure Digits (digits : List Char) : Prop where
  ne_nil : digits ≠ []
  all : ∀ c ∈ digits, c.isDigit = true

/-- Digits, with a point before, between or behind them or without; the fraction is what follows the
point. -/
inductive Mantissa : List Char → Option (List Char) → List Char → Prop where
  | whole {digits : List Char} (hdigits : Digits digits) : Mantissa digits none digits
  | pointed {digits fraction : List Char} (hdigits : Digits digits)
      (hfraction : ∀ c ∈ fraction, c.isDigit = true) :
      Mantissa digits (some fraction) (digits ++ '.' :: fraction)
  | point {fraction : List Char} (hfraction : Digits fraction) :
      Mantissa [] (some fraction) ('.' :: fraction)

inductive Exponent : Int → List Char → Prop where
  | intro {mark : Char} {negative : Bool} {sign digits : List Char}
      (hmark : mark = 'e' ∨ mark = 'E') (hsign : Sign negative sign) (hdigits : Digits digits) :
      Exponent (signed negative (digitsValue digits)) (mark :: (sign ++ digits))

/-- A word in any case. -/
def IsWord (word : String) (text : List Char) : Prop := text.map Char.toLower = word.toList

/-- The text is a numeral, and which. -/
inductive Spelled : Numeral → List Char → Prop where
  | infinity {negative : Bool} {sign word : List Char} (hsign : Sign negative sign)
      (hword : IsWord "inf" word ∨ IsWord "infinity" word) :
      Spelled (.infinity negative) (sign ++ word)
  | nan {negative : Bool} {sign word : List Char} (hsign : Sign negative sign)
      (hword : IsWord "nan" word) : Spelled (.nan negative) (sign ++ word)
  | whole {negative : Bool} {sign digits mantissa : List Char} (hsign : Sign negative sign)
      (hmantissa : Mantissa digits none mantissa) :
      Spelled (.whole negative digits) (sign ++ mantissa)
  | pointed {negative : Bool} {sign digits fraction mantissa : List Char}
      (hsign : Sign negative sign) (hmantissa : Mantissa digits (some fraction) mantissa) :
      Spelled (.decimal negative digits fraction 0) (sign ++ mantissa)
  | scaled {negative : Bool} {sign digits mantissa power : List Char}
      {fraction : Option (List Char)} {exponent : Int} (hsign : Sign negative sign)
      (hmantissa : Mantissa digits fraction mantissa) (hexponent : Exponent exponent power) :
      Spelled (.decimal negative digits (fraction.getD []) exponent) (sign ++ (mantissa ++ power))

/-! ## Signs -/

variable {negative : Bool} {text rest : List Char}

theorem exists_sign_of_splitSign (h : splitSign text = (negative, rest)) :
    ∃ sign, Sign negative sign ∧ text = sign ++ rest := by
  unfold splitSign at h
  split at h
  · obtain ⟨rfl, rfl⟩ := Prod.mk.inj h
    exact ⟨_, .plus, rfl⟩
  · obtain ⟨rfl, rfl⟩ := Prod.mk.inj h
    exact ⟨_, .minus, rfl⟩
  · obtain ⟨rfl, rfl⟩ := Prod.mk.inj h
    exact ⟨_, .none, rfl⟩

/-- A sign is taken, and none is where something else begins. -/
theorem Sign.splitSign_append {sign : List Char} (hsign : Sign negative sign) {c : Char}
    (hplus : c ≠ '+') (hminus : c ≠ '-') : splitSign (sign ++ c :: rest) = (negative, c :: rest) := by
  cases hsign with
  | none =>
    unfold splitSign
    split
    · next heq => exact absurd (List.cons.inj heq).1 hplus
    · next heq => exact absurd (List.cons.inj heq).1 hminus
    · rfl
  | plus => rfl
  | minus => rfl

/-! ## Digits -/

/-- The characters of the digits. -/
theorem toNat_of_isDigit {c : Char} (h : c.isDigit = true) : 48 ≤ c.toNat ∧ c.toNat ≤ 57 := by
  simp only [Char.isDigit, Bool.and_eq_true, decide_eq_true_eq, UInt32.le_iff_toNat_le] at h
  exact h

theorem sub_lt_of_isDigit {c : Char} (h : c.isDigit = true) : c.toNat - '0'.toNat < 10 := by
  have hdigit := toNat_of_isDigit h
  rw [show '0'.toNat = 48 from rfl]
  omega

theorem takeWhile_digits {digits : List Char} (h : ∀ c ∈ digits, c.isDigit = true) :
    (digits ++ rest).takeWhile Char.isDigit = digits ++ rest.takeWhile Char.isDigit :=
  List.takeWhile_append_of_pos h

theorem dropWhile_digits {digits : List Char} (h : ∀ c ∈ digits, c.isDigit = true) :
    (digits ++ rest).dropWhile Char.isDigit = rest.dropWhile Char.isDigit :=
  List.dropWhile_append_of_pos h

theorem isDigit_of_mem_takeWhile {c : Char} (h : c ∈ text.takeWhile Char.isDigit) :
    c.isDigit = true := List.mem_takeWhile_imp h

/-- No digit and no point comes next. -/
def Stops (text : List Char) : Prop := ∀ c, text.head? = some c → c.isDigit = false ∧ c ≠ '.'

theorem stops_nil : Stops [] := fun c hc => absurd hc (by simp)

theorem Stops.takeWhile (h : Stops rest) : rest.takeWhile Char.isDigit = [] := by
  cases rest with
  | nil => rfl
  | cons c rest => simp [(h c rfl).1]

theorem Stops.dropWhile (h : Stops rest) : rest.dropWhile Char.isDigit = rest := by
  cases rest with
  | nil => rfl
  | cons c rest => simp [(h c rfl).1]

/-! ## The mantissa -/

/-- What is read behind some digits: a point with a fraction, if there is a digit on either side. -/
theorem readMantissa?_point {digits : List Char} (hdigits : ∀ c ∈ digits, c.isDigit = true) :
    readMantissa? (digits ++ '.' :: rest) =
      if digits = [] ∧ rest.takeWhile Char.isDigit = [] then none
      else some (digits, some (rest.takeWhile Char.isDigit), rest.dropWhile Char.isDigit) := by
  unfold readMantissa? splitDigits
  dsimp only
  rw [takeWhile_digits hdigits, dropWhile_digits hdigits]
  cases digits with
  | nil => cases h : rest.takeWhile Char.isDigit <;> simp [readFraction?, splitDigits, h]
  | cons c digits => simp [readFraction?, splitDigits]

theorem readMantissa?_stops {digits : List Char} (hdigits : ∀ c ∈ digits, c.isDigit = true)
    (h : Stops rest) :
    readMantissa? (digits ++ rest) = if digits = [] then none else some (digits, none, rest) := by
  have hfraction : readFraction? digits rest = none := by
    unfold readFraction?
    split
    · exact absurd rfl (h '.' rfl).2
    · rfl
  unfold readMantissa? splitDigits
  dsimp only
  rw [takeWhile_digits hdigits, dropWhile_digits hdigits, h.takeWhile, h.dropWhile,
    List.append_nil, hfraction]
  simp

/-- Every text goes on with digits, and then with a point or with something else. -/
theorem exists_digits (text : List Char) :
    ∃ digits rest, text = digits ++ rest ∧ (∀ c ∈ digits, c.isDigit = true) ∧
      ((∃ tail, rest = '.' :: tail) ∨ Stops rest) := by
  refine ⟨text.takeWhile Char.isDigit, text.dropWhile Char.isDigit,
    List.takeWhile_append_dropWhile.symm, fun c hc => isDigit_of_mem_takeWhile hc, ?_⟩
  cases hrest : text.dropWhile Char.isDigit with
  | nil => exact .inr fun c hc => absurd hc (by simp)
  | cons c tail =>
    have hdigit : c.isDigit = false := by
      have hne : text.dropWhile Char.isDigit ≠ [] := by simp [hrest]
      have hhead := List.head_dropWhile_not Char.isDigit hne
      simpa [hrest] using hhead
    by_cases hpoint : c = '.'
    · exact .inl ⟨tail, by rw [hpoint]⟩
    · refine .inr fun d hd => ?_
      obtain rfl : c = d := by simpa using hd
      exact ⟨hdigit, hpoint⟩

theorem mantissa_of_readMantissa? {digits : List Char} {fraction : Option (List Char)}
    (h : readMantissa? text = some (digits, fraction, rest)) :
    ∃ mantissa, Mantissa digits fraction mantissa ∧ text = mantissa ++ rest := by
  obtain ⟨front, behind, rfl, hfront, ⟨tail, rfl⟩ | hstops⟩ := exists_digits text
  · rw [readMantissa?_point hfront] at h
    split at h
    · exact absurd h (by simp)
    · next hsome =>
      obtain ⟨rfl, rfl, rfl⟩ : front = digits ∧ some (tail.takeWhile Char.isDigit) = fraction ∧
          tail.dropWhile Char.isDigit = rest := by simpa using h
      have hfraction : ∀ c ∈ tail.takeWhile Char.isDigit, c.isDigit = true :=
        fun c hc => isDigit_of_mem_takeWhile hc
      have hsplit : tail.takeWhile Char.isDigit ++ tail.dropWhile Char.isDigit = tail :=
        List.takeWhile_append_dropWhile
      cases front with
      | nil => exact ⟨_, .point ⟨fun hnil => hsome ⟨rfl, hnil⟩, hfraction⟩, by simp [hsplit]⟩
      | cons c front => exact ⟨_, .pointed ⟨by simp, hfront⟩ hfraction, by simp [hsplit]⟩
  · rw [readMantissa?_stops hfront hstops] at h
    split at h
    · exact absurd h (by simp)
    · next hne =>
      obtain ⟨rfl, rfl, rfl⟩ : front = digits ∧ none = fraction ∧ behind = rest := by
        simpa using h
      exact ⟨_, .whole ⟨hne, hfront⟩, rfl⟩

namespace Mantissa

variable {digits mantissa : List Char} {fraction : Option (List Char)}

/-- A mantissa is read as it is where nothing more of one follows. -/
theorem readMantissa?_append (h : Mantissa digits fraction mantissa) (hstops : Stops rest) :
    readMantissa? (mantissa ++ rest) = some (digits, fraction, rest) := by
  cases h with
  | whole hdigits => rw [readMantissa?_stops hdigits.all hstops, if_neg hdigits.ne_nil]
  | @pointed _ fraction hdigits hfraction =>
    rw [List.append_assoc, List.cons_append, readMantissa?_point hdigits.all,
      if_neg fun hnil => hdigits.ne_nil hnil.1, takeWhile_digits hfraction,
      dropWhile_digits hfraction, hstops.takeWhile, hstops.dropWhile, List.append_nil]
  | @point fraction hfraction =>
    change readMantissa? ([] ++ '.' :: (fraction ++ rest)) = _
    rw [readMantissa?_point (by simp), takeWhile_digits hfraction.all,
      dropWhile_digits hfraction.all, hstops.takeWhile, hstops.dropWhile, List.append_nil,
      if_neg fun hnil => hfraction.ne_nil hnil.2]

theorem readMantissa?_point_append {front fraction : List Char}
    (hfront : ∀ c ∈ front, c.isDigit = true) (hfraction : ∀ c ∈ fraction, c.isDigit = true)
    (hne : ¬ (front = [] ∧ fraction = [])) (rest : List Char) :
    ∃ digits' fraction' rest',
      readMantissa? (front ++ '.' :: (fraction ++ rest)) = some (digits', fraction', rest') ∧
        rest'.length ≤ rest.length := by
  rw [readMantissa?_point hfront, takeWhile_digits hfraction, dropWhile_digits hfraction, if_neg]
  · exact ⟨_, _, _, rfl, List.length_dropWhile_le ..⟩
  · rintro ⟨hnil, hnil'⟩
    exact hne ⟨hnil, (List.append_eq_nil_iff.1 hnil').1⟩

/-- Whatever follows, no less than a mantissa is read. -/
theorem exists_readMantissa? (h : Mantissa digits fraction mantissa) (rest : List Char) :
    ∃ digits' fraction' rest', readMantissa? (mantissa ++ rest) = some (digits', fraction', rest') ∧
      rest'.length ≤ rest.length := by
  cases h with
  | whole hdigits =>
    obtain ⟨front, behind, rfl, hfront, hbehind⟩ := exists_digits rest
    have hall : ∀ c ∈ digits ++ front, c.isDigit = true := by
      intro c hc
      exact (List.mem_append.1 hc).elim (hdigits.all c) (hfront c)
    have hne : digits ++ front ≠ [] := by simp [hdigits.ne_nil]
    rw [← List.append_assoc]
    rcases hbehind with ⟨tail, rfl⟩ | hstops
    · obtain ⟨digits', fraction', rest', hread, hlength⟩ :=
        readMantissa?_point_append hall (List.forall_mem_nil _) (fun hnil => hne hnil.1) tail
      refine ⟨digits', fraction', rest', hread, Nat.le_trans hlength ?_⟩
      simp only [List.length_append, List.length_cons]
      omega
    · rw [readMantissa?_stops hall hstops, if_neg hne]
      exact ⟨_, _, _, rfl, by simp⟩
  | pointed hdigits hfraction =>
    rw [List.append_assoc, List.cons_append]
    exact readMantissa?_point_append hdigits.all hfraction (fun hnil => hdigits.ne_nil hnil.1) rest
  | point hfraction =>
    exact readMantissa?_point_append (List.forall_mem_nil _) hfraction.all
      (fun hnil => hfraction.ne_nil hnil.2) rest

theorem exists_head (h : Mantissa digits fraction mantissa) :
    ∃ c tail, mantissa = c :: tail ∧ (c.isDigit = true ∨ c = '.') := by
  cases h with
  | whole hdigits =>
    obtain ⟨c, tail, rfl⟩ := List.exists_cons_of_ne_nil hdigits.ne_nil
    exact ⟨c, tail, rfl, .inl (hdigits.all c List.mem_cons_self)⟩
  | pointed hdigits _ =>
    obtain ⟨c, tail, rfl⟩ := List.exists_cons_of_ne_nil hdigits.ne_nil
    exact ⟨c, _, rfl, .inl (hdigits.all c List.mem_cons_self)⟩
  | point _ => exact ⟨_, _, rfl, .inr rfl⟩

end Mantissa

/-! ## The exponent -/

theorem readExponent?_mark {mark : Char} {tail : List Char} (hmark : mark = 'e' ∨ mark = 'E')
    (hsplit : splitSign tail = (negative, rest)) :
    readExponent? (mark :: tail) =
      if rest.takeWhile Char.isDigit = [] then none
      else some (signed negative (digitsValue (rest.takeWhile Char.isDigit)),
        rest.dropWhile Char.isDigit) := by
  unfold readExponent? splitDigits
  dsimp only
  rw [if_pos hmark, hsplit]
  simp only [List.isEmpty_iff]

theorem readExponent?_other (h : ¬ (text.head? = some 'e' ∨ text.head? = some 'E')) :
    readExponent? text = none := by
  cases text with
  | nil => rfl
  | cons c text =>
    refine if_neg ?_
    simpa using h

/-- A text begins with the mark of an exponent or not. -/
theorem mark_cases (text : List Char) :
    (∃ mark tail, text = mark :: tail ∧ (mark = 'e' ∨ mark = 'E')) ∨
      ¬ (text.head? = some 'e' ∨ text.head? = some 'E') := by
  cases text with
  | nil => exact .inr (by simp)
  | cons c text =>
    by_cases hmark : c = 'e' ∨ c = 'E'
    · exact .inl ⟨c, text, rfl, hmark⟩
    · exact .inr (by simpa using hmark)

theorem exponent_of_readExponent? {exponent : Int} (h : readExponent? text = some (exponent, rest)) :
    ∃ power, Exponent exponent power ∧ text = power ++ rest := by
  obtain ⟨mark, tail, rfl, hmark⟩ | hother := mark_cases text
  · rcases hsplit : splitSign tail with ⟨negative, behind⟩
    obtain ⟨sign, hsign, rfl⟩ := exists_sign_of_splitSign hsplit
    rw [readExponent?_mark hmark hsplit] at h
    split at h
    · exact absurd h (by simp)
    · next hne =>
      obtain ⟨rfl, rfl⟩ := Prod.mk.inj (Option.some.inj h)
      refine ⟨_, .intro hmark hsign ⟨hne, fun c hc => isDigit_of_mem_takeWhile hc⟩, ?_⟩
      simp [List.takeWhile_append_dropWhile]
  · rw [readExponent?_other hother] at h
    exact absurd h (by simp)

namespace Exponent

variable {exponent : Int} {power : List Char}

theorem stops_append (h : Exponent exponent power) (rest : List Char) : Stops (power ++ rest) := by
  cases h with
  | intro hmark _ _ =>
    intro c hc
    obtain rfl := Option.some.inj hc
    rcases hmark with rfl | rfl <;> decide

/-- An exponent is read with all the digits that follow. -/
theorem exists_readExponent? (h : Exponent exponent power) (rest : List Char) :
    ∃ exponent', readExponent? (power ++ rest) =
        some (exponent', rest.dropWhile Char.isDigit) ∧
      (rest = [] → exponent' = exponent) := by
  cases h with
  | @intro mark negative sign digits hmark hsign hdigits =>
    obtain ⟨c, tail, rfl⟩ := List.exists_cons_of_ne_nil hdigits.ne_nil
    have hdigit := hdigits.all c List.mem_cons_self
    have hsplit : splitSign (sign ++ (c :: tail ++ rest)) = (negative, c :: tail ++ rest) :=
      hsign.splitSign_append (by rintro rfl; exact absurd hdigit (by decide))
        (by rintro rfl; exact absurd hdigit (by decide))
    refine ⟨signed negative (digitsValue (c :: tail ++ rest.takeWhile Char.isDigit)), ?_, ?_⟩
    · rw [List.cons_append, List.append_assoc, readExponent?_mark hmark hsplit,
        takeWhile_digits hdigits.all, dropWhile_digits hdigits.all, if_neg (by simp)]
    · rintro rfl
      simp

end Exponent

/-! ## Words -/

theorem dropWord?_eq_some_iff {word : List Char} :
    dropWord? word text = some rest ↔ ∃ front, front.map Char.toLower = word ∧ text = front ++ rest := by
  fun_induction dropWord? word text with
  | case1 text => simp [eq_comm]
  | case2 w word => simp
  | case3 word c text ih =>
    rw [ih]
    constructor
    · rintro ⟨front, rfl, rfl⟩
      exact ⟨c :: front, rfl, rfl⟩
    · rintro ⟨front, hfront, htext⟩
      cases front with
      | nil => exact absurd hfront (by simp)
      | cons d front =>
        simp only [List.map_cons, List.cons.injEq] at hfront
        simp only [List.cons_append, List.cons.injEq] at htext
        exact ⟨front, hfront.2, htext.2⟩
  | case4 w word c text hc =>
    simp only [reduceCtorEq, false_iff, not_exists, not_and]
    rintro (_ | ⟨d, front⟩) hfront htext
    · exact absurd hfront (by simp)
    · simp only [List.map_cons, List.cons.injEq] at hfront
      simp only [List.cons_append, List.cons.injEq] at htext
      exact hc (htext.1 ▸ hfront.1)

theorem IsWord.dropWord? {word : String} {front : List Char} (h : IsWord word front)
    (rest : List Char) : dropWord? word.toList (front ++ rest) = some rest :=
  dropWord?_eq_some_iff.2 ⟨front, h, rfl⟩

theorem IsWord.length_eq {word : String} {front : List Char} (h : IsWord word front) :
    front.length = word.length := by
  rw [← String.length_toList, ← h, List.length_map]

theorem IsWord.exists_head {word : String} {front : List Char} (h : IsWord word front) {w : Char}
    (hw : word.toList.head? = some w) : ∃ c tail, front = c :: tail ∧ c.toLower = w := by
  rw [← h] at hw
  cases front with
  | nil => exact absurd hw (by simp)
  | cons c tail => exact ⟨c, tail, rfl, by simpa using hw⟩

theorem word_of_readWord? {numeral : Numeral}
    (h : readWord? negative text = some (numeral, rest)) :
    ∃ word, text = word ++ rest ∧
      ((numeral = .infinity negative ∧ (IsWord "inf" word ∨ IsWord "infinity" word)) ∨
        numeral = .nan negative ∧ IsWord "nan" word) := by
  unfold readWord? at h
  split at h
  · next hread =>
    obtain ⟨rfl, rfl⟩ := Prod.mk.inj (Option.some.inj h)
    obtain ⟨word, hword, rfl⟩ := dropWord?_eq_some_iff.1 hread
    exact ⟨word, rfl, .inl ⟨rfl, .inr hword⟩⟩
  · split at h
    · next hread =>
      obtain ⟨rfl, rfl⟩ := Prod.mk.inj (Option.some.inj h)
      obtain ⟨word, hword, rfl⟩ := dropWord?_eq_some_iff.1 hread
      exact ⟨word, rfl, .inl ⟨rfl, .inl hword⟩⟩
    · obtain ⟨behind, hread, heq⟩ := Option.map_eq_some_iff.1 h
      obtain ⟨rfl, rfl⟩ := Prod.mk.inj heq
      obtain ⟨word, hword, rfl⟩ := dropWord?_eq_some_iff.1 hread
      exact ⟨word, rfl, .inr ⟨rfl, hword⟩⟩

/-- `infinity` is preferred to `inf`. -/
theorem exists_readWord?_infinity {word : List Char}
    (hword : IsWord "inf" word ∨ IsWord "infinity" word) (negative : Bool) (rest : List Char) :
    ∃ rest', readWord? negative (word ++ rest) = some (.infinity negative, rest') ∧
      rest'.length ≤ rest.length := by
  unfold readWord?
  cases hlong : dropWord? "infinity".toList (word ++ rest) with
  | some rest' =>
    refine ⟨rest', rfl, ?_⟩
    obtain ⟨front, hfront, happend⟩ := dropWord?_eq_some_iff.1 hlong
    have hlength := congrArg List.length happend
    have hfront' : front.length = "infinity".length := IsWord.length_eq hfront
    have hword' : word.length ≤ "infinity".length := by
      rcases hword with hword | hword
      · rw [hword.length_eq]
        decide
      · rw [hword.length_eq]
    rw [List.length_append, List.length_append] at hlength
    omega
  | none =>
    rcases hword with hword | hword
    · refine ⟨rest, ?_, Nat.le_refl _⟩
      dsimp only
      rw [hword.dropWord?]
    · rw [hword.dropWord?] at hlong
      exact absurd hlong (by simp)

/-- A text is no word if it does not begin with the first letter of one. -/
theorem dropWord?_eq_none {word : String} {c w : Char} (hw : word.toList.head? = some w)
    (hc : c.toLower ≠ w) : dropWord? word.toList (c :: rest) = none := by
  cases hword : word.toList with
  | nil => exact absurd hw (by simp [hword])
  | cons d word =>
    obtain rfl : d = w := by simpa [hword] using hw
    rw [dropWord?, if_neg hc]

theorem readWord?_nan {word : List Char} (hword : IsWord "nan" word) (negative : Bool)
    (rest : List Char) : readWord? negative (word ++ rest) = some (.nan negative, rest) := by
  have hdrop := hword.dropWord? rest
  obtain ⟨c, tail, rfl, hc⟩ := hword.exists_head rfl
  have hi : c.toLower ≠ 'i' := by
    rw [hc]
    decide
  unfold readWord?
  rw [List.cons_append] at hdrop ⊢
  rw [dropWord?_eq_none rfl hi, dropWord?_eq_none rfl hi, hdrop]
  rfl

theorem readWord?_eq_none {c : Char} (hc : c.isDigit = true ∨ c = '.') (negative : Bool)
    (rest : List Char) : readWord? negative (c :: rest) = none := by
  have hlower : c.toLower ≠ 'i' ∧ c.toLower ≠ 'n' := by
    rcases hc with hdigit | rfl
    · have hself : c.toLower = c := by
        refine Char.toLower_eq_of_not_isUpper ?_
        simp only [Char.isDigit, Char.isUpper, Bool.and_eq_true, decide_eq_true_eq] at hdigit ⊢
        grind
      rw [hself]
      constructor <;> rintro rfl <;> exact absurd hdigit (by decide)
    · decide
  unfold readWord?
  rw [dropWord?_eq_none rfl hlower.1, dropWord?_eq_none rfl hlower.1,
    dropWord?_eq_none rfl hlower.2]
  rfl

/-! ## The reader -/

/-- **What is read is a numeral** of the grammar. -/
theorem spelled_of_read? {numeral : Numeral} (h : read? text = some (numeral, rest)) :
    ∃ lexeme, Spelled numeral lexeme ∧ text = lexeme ++ rest := by
  unfold read? at h
  rcases hsplit : splitSign text with ⟨negative, behind⟩
  obtain ⟨sign, hsign, rfl⟩ := exists_sign_of_splitSign hsplit
  rw [hsplit] at h
  dsimp only at h
  split at h
  · next found hread =>
    obtain rfl := Option.some.inj h
    obtain ⟨word, rfl, ⟨rfl, hword⟩ | ⟨rfl, hword⟩⟩ := word_of_readWord? hread
    · exact ⟨_, .infinity hsign hword, (List.append_assoc ..).symm⟩
    · exact ⟨_, .nan hsign hword, (List.append_assoc ..).symm⟩
  · unfold readDigits? at h
    obtain ⟨⟨digits, fraction, tail⟩, hmantissa, heq⟩ := Option.map_eq_some_iff.1 h
    obtain ⟨mantissa, hspelled, rfl⟩ := mantissa_of_readMantissa? hmantissa
    cases hexponent : readExponent? tail with
    | some found =>
      obtain ⟨exponent, last⟩ := found
      obtain ⟨power, hpower, rfl⟩ := exponent_of_readExponent? hexponent
      obtain ⟨rfl, rfl⟩ : _ ∧ last = rest := by simpa [hexponent] using heq
      exact ⟨_, .scaled hsign hspelled hpower, by simp⟩
    | none =>
      cases fraction with
      | none =>
        obtain ⟨rfl, rfl⟩ : _ ∧ tail = rest := by simpa [hexponent] using heq
        exact ⟨_, .whole hsign hspelled, by simp⟩
      | some fraction =>
        obtain ⟨rfl, rfl⟩ : _ ∧ tail = rest := by simpa [hexponent] using heq
        exact ⟨_, .pointed hsign hspelled, by simp⟩

/-- What the reader does behind a sign that a word follows. -/
theorem read?_of_readWord? {sign word : List Char} (hsign : Sign negative sign)
    (hhead : ∃ c tail, word = c :: tail ∧ (c.toLower = 'i' ∨ c.toLower = 'n'))
    {found : Numeral × List Char} (h : readWord? negative (word ++ rest) = some found) :
    read? (sign ++ word ++ rest) = some found := by
  obtain ⟨c, tail, rfl, hc⟩ := hhead
  have hsplit : splitSign (sign ++ c :: tail ++ rest) = (negative, c :: tail ++ rest) := by
    rw [List.append_assoc]
    refine hsign.splitSign_append ?_ ?_ <;> rintro rfl <;> exact absurd hc (by decide)
  unfold read?
  rw [hsplit]
  dsimp only
  rw [h]

/-- What the reader does behind a sign that a mantissa follows. -/
theorem read?_of_mantissa {sign digits mantissa : List Char} {fraction : Option (List Char)}
    (hsign : Sign negative sign) (hmantissa : Mantissa digits fraction mantissa) (rest : List Char) :
    read? (sign ++ (mantissa ++ rest)) = readDigits? negative (mantissa ++ rest) := by
  obtain ⟨c, tail, rfl, hc⟩ := hmantissa.exists_head
  have hsplit : splitSign (sign ++ (c :: tail ++ rest)) = (negative, c :: tail ++ rest) := by
    refine hsign.splitSign_append ?_ ?_ <;> rintro rfl <;> exact absurd hc (by decide)
  unfold read?
  rw [hsplit]
  dsimp only
  rw [List.cons_append, readWord?_eq_none hc]

/-- Behind a mantissa an exponent may be read, and then less is left. -/
theorem exists_readDigits? {digits : List Char} {fraction : Option (List Char)}
    (h : readMantissa? text = some (digits, fraction, rest)) (negative : Bool) :
    ∃ numeral rest', readDigits? negative text = some (numeral, rest') ∧
      rest'.length ≤ rest.length := by
  unfold readDigits?
  rw [h]
  cases hexponent : readExponent? rest with
  | some found =>
    obtain ⟨exponent, last⟩ := found
    obtain ⟨power, -, rfl⟩ := exponent_of_readExponent? hexponent
    refine ⟨.decimal negative digits (fraction.getD []) exponent, last, ?_, by simp⟩
    simp [hexponent]
  | none =>
    cases fraction with
    | none => exact ⟨.whole negative digits, rest, by simp [hexponent], Nat.le_refl _⟩
    | some fraction =>
      exact ⟨.decimal negative digits fraction 0, rest, by simp [hexponent], Nat.le_refl _⟩

/-- A mantissa alone is read as the numeral without an exponent. -/
theorem Mantissa.exists_readDigits? {digits mantissa : List Char} {fraction : Option (List Char)}
    (h : Mantissa digits fraction mantissa) (negative : Bool) (rest : List Char) :
    ∃ numeral rest', readDigits? negative (mantissa ++ rest) = some (numeral, rest') ∧
      rest'.length ≤ rest.length ∧
      (rest = [] → numeral = fraction.elim (.whole negative digits)
        fun fraction => .decimal negative digits fraction 0) := by
  cases rest with
  | nil =>
    have hread := h.readMantissa?_append stops_nil
    refine ⟨_, [], ?_, Nat.le_refl _, fun _ => rfl⟩
    rw [readDigits?, hread]
    cases fraction <;> rfl
  | cons c rest =>
    obtain ⟨digits', fraction', rest', hread, hlength⟩ := h.exists_readMantissa? (c :: rest)
    obtain ⟨numeral, last, hlast, hless⟩ := Numeral.exists_readDigits? hread negative
    exact ⟨numeral, last, hlast, Nat.le_trans hless hlength, fun hnil => absurd hnil (by simp)⟩

/-- **No numeral that a text starts with is longer than what is read**, and a text that is a numeral
is read as that one. -/
theorem Spelled.exists_read? {numeral : Numeral} {lexeme : List Char} (h : Spelled numeral lexeme)
    (rest : List Char) :
    ∃ numeral' rest', read? (lexeme ++ rest) = some (numeral', rest') ∧
      rest'.length ≤ rest.length ∧ (rest = [] → numeral' = numeral) := by
  cases h with
  | @infinity negative sign word hsign hword =>
    obtain ⟨rest', hread, hlength⟩ := exists_readWord?_infinity hword negative rest
    obtain ⟨c, tail, htext, hc⟩ : ∃ c tail, word = c :: tail ∧ c.toLower = 'i' :=
      hword.elim (fun hword => hword.exists_head rfl) (fun hword => hword.exists_head rfl)
    exact ⟨_, rest', read?_of_readWord? hsign ⟨c, tail, htext, .inl hc⟩ hread, hlength,
      fun _ => rfl⟩
  | @nan negative sign word hsign hword =>
    obtain ⟨c, tail, htext, hc⟩ := hword.exists_head rfl
    exact ⟨_, rest,
      read?_of_readWord? hsign ⟨c, tail, htext, .inr hc⟩ (readWord?_nan hword negative rest),
      Nat.le_refl _, fun _ => rfl⟩
  | whole hsign hmantissa =>
    rw [List.append_assoc, read?_of_mantissa hsign hmantissa]
    exact hmantissa.exists_readDigits? _ rest
  | pointed hsign hmantissa =>
    rw [List.append_assoc, read?_of_mantissa hsign hmantissa]
    exact hmantissa.exists_readDigits? _ rest
  | @scaled negative sign digits mantissa power fraction exponent hsign hmantissa hexponent =>
    rw [List.append_assoc, List.append_assoc, read?_of_mantissa hsign hmantissa]
    obtain ⟨exponent', hread, hexact⟩ := hexponent.exists_readExponent? rest
    refine ⟨.decimal negative digits (fraction.getD []) exponent', rest.dropWhile Char.isDigit, ?_,
      List.length_dropWhile_le .., fun hnil => by rw [hexact hnil]⟩
    rw [readDigits?, hmantissa.readMantissa?_append (hexponent.stops_append rest)]
    simp [hread]

/-- A numeral alone is read as it is. -/
theorem Spelled.read?_eq {numeral : Numeral} {lexeme : List Char} (h : Spelled numeral lexeme) :
    read? lexeme = some (numeral, []) := by
  obtain ⟨numeral', rest, hread, hlength, hexact⟩ := h.exists_read? []
  obtain rfl := List.eq_nil_of_length_eq_zero (Nat.le_zero.1 hlength)
  rw [List.append_nil] at hread
  rw [hread, hexact rfl]

/-- **A text spells one numeral at most**, and that is how it is read. -/
theorem Spelled.ofText?_eq {numeral : Numeral} {text : String} (h : Spelled numeral text.toList) :
    ofText? text = some numeral := by
  rw [ofText?, h.read?_eq]

end Numeral

end DynamicValues
