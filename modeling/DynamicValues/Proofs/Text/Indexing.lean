import DynamicValues.Proofs.Number.Bytes
import DynamicValues.Proofs.Text.Places

/-!
# Characters by number

A subject tells characters by number and its text by byte, and `Subject.indexing_exact` says that
nothing is lost between the two: numbers go to places and back, places go to numbers and back, and a
slice takes the characters that it names, whatever it is asked for.

What is an answer here and what is a failure is told apart by `slice?`: a cut outside the text, inside
a character or with its ends in the wrong order takes nothing. The cuts of a slice are places
(`Subject.cuts_eq`), so none of them fails.

A subject has no table where every character takes one byte. That is no second rule, for what it then
answers is what the full table says (`Subject.byteAt?_eq_table`, `Subject.charIndex_eq_table`).
-/

set_option autoImplicit false

namespace DynamicValues

open String (utf8Len)

namespace Subject

variable {s : Subject}

/-! ## The full table -/

/-- **The place of a character is the entry of the table**, and the length of the text comes after the
last one. -/
theorem byteAt?_eq_table (s : Subject) (index : Nat) :
    s.byteAt? index = (offsetsFrom 0 s.text.toList ++ [s.byteLength])[index]? := by
  rcases Nat.lt_trichotomy index s.text.toList.length with hlt | rfl | hgt
  · have hbefore : (s.text.toList.take index).length = index := List.length_take_of_le hlt.le
    have hsplit := (List.take_append_drop index s.text.toList).symm
    have hat := byteAt?_length hsplit
    rw [hbefore] at hat
    rw [hat, List.getElem?_append_left (by simpa using hlt), hsplit, offsetsFrom_append,
      List.getElem?_append_right (by simp), List.drop_eq_getElem_cons hlt]
    simp [offsetsFrom, hbefore]
  · have hat := byteAt?_length (List.append_nil s.text.toList).symm
    rw [hat, ← byteLength_eq, List.getElem?_append_right (by simp)]
    simp
  · rw [byteAt?_eq, if_neg (by rw [← String.length_toList]; omega), eq_comm,
      List.getElem?_eq_none_iff]
    simpa using hgt

/-- **The number of a place is how many entries of the table are below it.** -/
theorem charIndex_eq_table {place : Nat} (h : IsPlace s.text place) :
    s.charIndex place = (offsetsFrom 0 s.text.toList).countP (· < place) := by
  obtain ⟨before, after, hsplit, rfl⟩ := h
  have hbelow : (offsetsFrom 0 before).countP (· < utf8Len before) = before.length := by
    rw [← length_offsetsFrom 0 before, List.countP_eq_length]
    intro offset hmem
    simpa using lt_of_mem_offsetsFrom hmem
  have habove : (offsetsFrom (0 + utf8Len before) after).countP (· < utf8Len before) = 0 := by
    rw [List.countP_eq_zero]
    intro offset hmem
    simpa using le_of_mem_offsetsFrom hmem
  rw [charIndex_eq hsplit, hsplit, offsetsFrom_append, List.countP_append, hbelow, habove]
  rfl

/-! ## Cuts -/

/-- The bytes that a slice is cut at. -/
def cuts (s : Subject) (start stop : Nat) : Nat × Nat :=
  let first := (s.byteAt? (min start s.charLength)).getD s.byteLength
  (first, max first ((s.byteAt? (min stop s.charLength)).getD s.byteLength))

theorem slice_eq_extract (s : Subject) (start stop : Nat) :
    s.slice start stop =
      String.Pos.Raw.extract s.text ⟨(s.cuts start stop).1⟩ ⟨(s.cuts start stop).2⟩ := rfl

theorem monotone_placeAfter (text : String) : Monotone (placeAfter text) := fun _ _ hle =>
  String.utf8Len_le_of_prefix (List.take_prefix_take_left hle)

/-- **The cuts of a slice are places**, the second one not before the first. -/
theorem cuts_eq (s : Subject) (start stop : Nat) :
    s.cuts start stop = (placeAfter s.text start, placeAfter s.text (max start stop)) := by
  unfold cuts
  rw [byteAt?_min, byteAt?_min, (monotone_placeAfter s.text).map_max]

/-- **No cut of a slice fails.** -/
theorem slice?_cuts (s : Subject) (start stop : Nat) :
    slice? s.text (s.cuts start stop).1 (s.cuts start stop).2 = some (s.slice start stop) := by
  have hle : start ≤ max start stop := Nat.le_max_left _ _
  have hcut := slice?_append (s.text.toList.take start)
    ((s.text.toList.take (max start stop)).drop start) (s.text.toList.drop (max start stop))
  rw [take_append_drop_take _ hle, List.take_append_drop, String.ofList_toList] at hcut
  rw [cuts_eq, placeAfter, placeAfter, hcut, slice_eq]
  rcases Nat.le_total start stop with hstop | hstop
  · rw [Nat.max_eq_right hstop]
  · -- Nothing is between the two cuts, and nothing was asked for.
    rw [Nat.max_eq_left hstop, List.drop_take_self, List.drop_eq_nil_of_le]
    exact (List.length_take_le _ _).trans hstop

/-- A slice with both numbers cut down to how many characters there are. -/
theorem slice_eq_extract_min (s : Subject) (start stop : Nat) :
    s.slice start stop = String.ofList
      (s.text.toList.extract (min start s.text.length) (min stop s.text.length)) := by
  rw [slice_eq, List.extract_eq_take_drop, ← List.drop_take, ← String.length_toList,
    ← List.take_eq_take_min]
  rcases Nat.le_total start s.text.toList.length with hle | hle
  · rw [Nat.min_eq_left hle]
  · rw [Nat.min_eq_right hle, List.drop_eq_nil_of_le, List.drop_eq_nil_of_le]
    · exact List.length_take_le' ..
    · exact (List.length_take_le' ..).trans hle

/-! ## All conversions -/

/-- **Numbers of characters and places say the same**, for every text. A number up to the count of
characters leads to the place that comes after so many of them, and no other number to any; a place
leads back to its number and a number to its place. A slice is cut out of the text at two places, so no
cut fails, and it takes the characters from one number up to another, none if they come in the wrong
order. The full table of the text says the same where a subject does without. -/
theorem indexing_exact (text : String) :
    let s := ofText text
    s.charLength = text.length ∧
    (∀ index, s.byteAt? index =
      if index ≤ text.length then some (utf8Len (text.toList.take index)) else none) ∧
    s.byteAt? text.length = some text.utf8ByteSize ∧
    (∀ index ≤ text.length, ∃ place, s.byteAt? index = some place ∧ s.charIndex place = index) ∧
    (∀ place, IsPlace text place → s.byteAt? (s.charIndex place) = some place) ∧
    (∀ start stop,
      s.slice start stop =
        String.Pos.Raw.extract text ⟨(s.cuts start stop).1⟩ ⟨(s.cuts start stop).2⟩ ∧
      slice? text (s.cuts start stop).1 (s.cuts start stop).2 = some (s.slice start stop)) ∧
    (∀ start stop, s.slice start stop = if start ≤ stop then
      String.ofList (text.toList.extract (min start text.length) (min stop text.length)) else "") ∧
    (∀ index, s.byteAt? index = (offsetsFrom 0 text.toList ++ [text.utf8ByteSize])[index]?) ∧
    ∀ place, IsPlace text place →
      s.charIndex place = (offsetsFrom 0 text.toList).countP (· < place) := by
  intro s
  have hlength : s.charLength = text.length := by rw [charLength_eq]; exact String.length_toList
  have hplace := s.byteAt?_eq
  refine ⟨hlength, hplace, ?_, ?_, ?_,
    fun start stop => ⟨s.slice_eq_extract start stop, s.slice?_cuts start stop⟩, ?_,
    s.byteAt?_eq_table, fun place h => charIndex_eq_table h⟩
  · rw [← hlength, byteAt?, if_pos rfl]
    rfl
  · intro index hindex
    have hat := (hplace index).trans (if_pos hindex)
    exact ⟨_, hat, charIndex_byteAt? hat⟩
  · rintro place ⟨before, after, hsplit, rfl⟩
    rw [charIndex_eq (s := s) hsplit]
    exact byteAt?_length hsplit
  · intro start stop
    split
    · exact s.slice_eq_extract_min start stop
    · next hlt =>
      rw [slice_eq, List.drop_eq_nil_of_le, String.ofList_nil]
      exact (List.length_take_le _ _).trans (by omega)

/-- Two characters of one byte and one of two between them. -/
example : (ofText "aéz").byteAt? 2 = some 3 ∧ (ofText "aéz").charIndex 3 = 2 ∧
    (ofText "aéz").slice 2 (2 ^ 64 - 1) = "z" ∧ (ofText "aéz").slice 3 1 = "" := by
  decide +kernel

end Subject

end DynamicValues
