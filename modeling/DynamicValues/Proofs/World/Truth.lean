import DynamicValues.Proofs.Number.Limited
import DynamicValues.Proofs.World.Refusal

/-!
# Truth

Truth is a coercion of its own. It looks neither at the text nor at the number of a value, and it has
no way to warn. `World.truth_eq_false_iff` says how it goes with the other two all the same: what is
undefined, has an empty text or is worth exactly zero is false, and nothing else is.

Each form of a value has its own way to be false. Only a text can be empty, for a number, a reference
and all that is no scalar shows as something (`text_ne_empty`). Zero are the empty containers, two of
the floating point numbers, and the texts that begin with no numeral or with one that is zero; an
address never is.
-/

set_option autoImplicit false

namespace DynamicValues

/-! ## Zero -/

namespace Float64

/-- A number by its three fields. -/
theorem toNat_bits_eq (x : Float64) : x.bits.toNat =
    x.bits.toNat / Nat.pow 2 63 * Nat.pow 2 63 + x.exponentField * Nat.pow 2 52 + x.fraction := by
  simp only [exponentField, fraction, Nat.pow_eq, Nat.reducePow]
  omega

/-- **There are two zeros**, one for each sign. -/
theorem isZero_iff {x : Float64} : x.isZero = true ↔ x = zero false ∨ x = zero true := by
  constructor
  · intro h
    simp only [isZero, Bool.and_eq_true, beq_iff_eq] at h
    obtain ⟨hexponent, hfraction⟩ := h
    have hbits := x.toNat_bits_eq
    rw [hexponent, hfraction] at hbits
    have hsign : x.bits.toNat / Nat.pow 2 63 = 0 ∨ x.bits.toNat / Nat.pow 2 63 = 1 := by
      have hlt := x.bits.toNat_lt
      simp only [Nat.pow_eq, Nat.reducePow]
      omega
    obtain ⟨bits⟩ := x
    simp only [zero, ofFields, mk.injEq]
    rcases hsign with hsign | hsign
    · left
      rw [hsign] at hbits
      apply UInt64.toNat_inj.1
      simpa using hbits
    · right
      rw [hsign] at hbits
      apply UInt64.toNat_inj.1
      simpa using hbits
  · rintro (rfl | rfl) <;> rfl

end Float64

namespace Number

/-- Zero as a whole number, and as a floating point number of either sign. -/
def zeros : List Number := [.int 0, .float (.zero false), .float (.zero true)]

theorem isZero_iff {number : Number} : number.isZero = true ↔ number ∈ zeros := by
  cases number with
  | int n => simp [isZero, zeros]
  | float x => simp [isZero, zeros, Float64.isZero_iff]

end Number

theorem countInt_eq_zero_iff {n : Nat} : countInt n = 0 ↔ n = 0 := by
  constructor
  · intro h
    -- Within the limits nothing is lost, and zero is within them.
    have hvalue : (countInt n).toInt = max (-2 ^ 63) (min (n : Int) (2 ^ 63 - 1)) :=
      Float64.toInt_clampInt64 n
    rw [h, Int64.toInt_zero] at hvalue
    omega
  · rintro rfl
    rfl

/-- Addresses are positive, and the number of one is too. -/
theorem Addresses.number_notMem_zeros (addresses : Addresses) (v : Value) :
    addresses.number v ∉ Number.zeros := by
  intro h
  have hzero := Number.isZero_iff.2 h
  simp only [number, Number.isZero, beq_iff_eq, countInt_eq_zero_iff] at hzero
  exact absurd hzero (Nat.ne_of_gt (addresses.pos v))

/-! ## Texts that are not empty -/

/-- The text of a number is a numeral, and the empty text is none. -/
theorem Numeral.Spelled.ne_empty {numeral : Numeral} {text : String}
    (h : Spelled numeral text.toList) : text ≠ "" := by
  rintro rfl
  have hread := h.read?_eq
  cases hread

theorem toString_ne_empty (n : Nat) : toString n ≠ "" := by
  intro h
  have hdigits : Nat.toDigits 10 n = [] := by
    simpa [Nat.repr_eq_ofList_toDigits] using congrArg String.toList h
  exact Nat.toDigits_ne_nil hdigits

namespace World

/-- A reference shows as a kind with an address, or as a pattern. -/
theorem referenceText_ne_empty (world : World) (target : Value) :
    world.referenceText target ≠ "" := by
  unfold referenceText
  simp only
  split <;> simp [CompiledPattern.toText]

/-- **Only undef and an empty text show as nothing.** -/
theorem datumText_eq_empty_iff {world : World} {datum : Datum} :
    (world.datumText datum).value = "" ↔ datum = .undef ∨ datum = .text "" := by
  cases datum with
  | undef => simp [datumText]
  | int n =>
    obtain ⟨_, hspelled, -⟩ := exists_spelled_intText n
    simpa [datumText] using hspelled.ne_empty
  | float x =>
    obtain ⟨_, hspelled⟩ := x.isNumeral_toGeneral
    simpa [datumText] using hspelled.ne_empty
  | text s => simp [datumText]
  | ref target => simpa [datumText] using world.referenceText_ne_empty target

theorem text_ne_empty {world : World} {v : Value} (h : world.heap.kind v ≠ .scalar) :
    (world.text v).value ≠ "" := by
  unfold Heap.kind at h
  unfold text
  cases hcontent : world.heap.content v with
  | scalar datum position => exact absurd (hcontent ▸ rfl) h
  | array items => exact toString_ne_empty _
  | hash entries => exact toString_ne_empty _
  | code name native => exact world.referenceText_ne_empty v
  | glob package name slots => simp
  | handle name => exact world.referenceText_ne_empty v
  | regex pattern => simp [CompiledPattern.toText]

end World

/-! ## The law -/

/-- The law for what a scalar holds. -/
theorem Datum.toBool_eq_false_iff (world : World) (datum : Datum) :
    datum.toBool = false ↔ datum.isDefined = false ∨ (world.datumText datum).value = "" ∨
      (world.datumNumber datum).value ∈ Number.zeros := by
  rw [World.datumText_eq_empty_iff]
  cases datum with
  | undef => simp [toBool, isDefined]
  | int n => simp [toBool, isDefined, World.datumNumber, Number.zeros]
  | float x => simp [toBool, isDefined, World.datumNumber, Number.zeros, Float64.isZero_iff]
  | text s =>
    simp only [toBool, isDefined, World.datumNumber, ← Number.isZero_iff]
    simp [imp_iff_or_not, or_comm]
  | ref target => simp [toBool, isDefined, World.datumNumber, Addresses.number_notMem_zeros]

namespace World

/-- What is no scalar is false where it is worth zero, which only a container can be. -/
theorem truth_eq_false_iff_zero {world : World} {v : Value} (h : world.heap.kind v ≠ .scalar) :
    world.heap.truth v = false ↔ (world.number v).value ∈ Number.zeros := by
  have haddress := world.addresses.number_notMem_zeros v
  unfold Heap.kind at h
  unfold Heap.truth number
  cases hcontent : world.heap.content v with
  | scalar datum position => exact absurd (hcontent ▸ rfl) h
  | array items => simp [Number.zeros, countInt_eq_zero_iff]
  | hash entries => simp [Number.zeros, countInt_eq_zero_iff, Table.isEmpty, Table.size]
  | code | glob | handle | regex => simp [haddress]

/-- **The law of truth.** Exactly those values are false that are undefined, have an empty text or are
worth exactly zero. Asking for the truth of a value changes nothing, so it never warns, whatever
asking for the text or the number would say. -/
theorem truth_eq_false_iff (world : World) (v : Value) :
    (world.heap.truth v = false ↔ world.heap.isDefined v = false ∨ (world.text v).value = "" ∨
      (world.number v).value ∈ Number.zeros) ∧
    Action.ask (fun world => .ok (world.heap.truth v)) world = .ok (world.heap.truth v) world := by
  refine ⟨?_, rfl⟩
  by_cases hkind : world.heap.kind v = .scalar
  · obtain ⟨datum, position, hcontent⟩ := Content.eq_scalar_of_kind hkind
    have hlaw := Datum.toBool_eq_false_iff world datum
    simpa only [Heap.truth, Heap.isDefined, Heap.datum?, text, number, hcontent] using hlaw
  · have hdatum : world.heap.datum? v = none := Heap.datum?_eq_none_iff.2 hkind
    rw [truth_eq_false_iff_zero hkind]
    simp [Heap.isDefined, hdatum, text_ne_empty hkind]

end World

end DynamicValues
