import DynamicValues.Text.Subject
import Mathlib.Data.String.Basic

/-!
# Places in a text

A place is a byte offset between two characters of a text, or at one of its ends: the length in
bytes of a beginning of the text (`IsPlace`). A subject counts places by the characters before them,
and its two conversions are what this says:

* `byteAt?` of a count is the place after that many characters (`byteAt?_eq_some_iff`);
* `charIndex` of a place is the number of characters before it (`charIndex_eq`), so that it keeps the
  order of places (`charIndex_lt_charIndex`).

ASCII text has no table, and any other text has one that is searched by halves. Both are opened
here and nowhere else: by `offsets_cases` and by `countBelow_eq`.
-/

set_option autoImplicit false

namespace DynamicValues

open String (utf8Len)

/-- A byte offset between two characters of a text or at one of its ends. -/
def IsPlace (text : String) (place : Nat) : Prop :=
  ∃ before after, text.toList = before ++ after ∧ place = utf8Len before

namespace IsPlace

variable {text : String} {place : Nat}

theorem charAt?_eq {before after : List Char} (hsplit : text.toList = before ++ after) :
    charAt? text (utf8Len before) = after.head? := by
  have hsize : text.utf8ByteSize = utf8Len before + utf8Len after := by
    rw [← String.utf8Len_toList, hsplit, String.utf8Len_append]
  have hget := String.get_of_valid before after
  rw [← hsplit, String.ofList_toList] at hget
  unfold charAt?
  cases after with
  | nil => rw [if_neg (by simp [hsize]), List.head?_nil]
  | cons c after =>
    have hpos := Char.utf8Size_pos c
    rw [String.utf8Len_cons] at hsize
    rw [if_pos (by omega), hget]
    rfl

/-- The place after the next character. -/
theorem next (h : IsPlace text place) {c : Char} (hc : charAt? text place = some c) :
    IsPlace text (place + c.utf8Size) := by
  obtain ⟨before, after, hsplit, rfl⟩ := h
  rw [charAt?_eq hsplit] at hc
  obtain ⟨rest, rfl⟩ := List.head?_eq_some_iff.1 hc
  refine ⟨before ++ [c], rest, by rw [hsplit, List.append_assoc]; rfl, ?_⟩
  simp

end IsPlace

/-! ## Places by number -/

/-- The place after the first so many characters of a text. -/
def placeAfter (text : String) (count : Nat) : Nat := utf8Len (text.toList.take count)

theorem charAt?_placeAfter (text : String) (count : Nat) :
    charAt? text (placeAfter text count) = text.toList[count]? := by
  rw [placeAfter, IsPlace.charAt?_eq (List.take_append_drop count text.toList).symm,
    List.head?_drop]

theorem placeAfter_succ {text : String} {count : Nat} {c : Char}
    (h : text.toList[count]? = some c) :
    placeAfter text (count + 1) = placeAfter text count + c.utf8Size := by
  rw [placeAfter, List.take_add_one, h, String.utf8Len_append, placeAfter]
  simp

/-! ## The table -/

@[simp] theorem length_offsetsFrom (start : Nat) (cs : List Char) :
    (offsetsFrom start cs).length = cs.length := by
  induction cs generalizing start with
  | nil => rfl
  | cons c cs ih => simp [offsetsFrom, ih]

theorem offsetsFrom_append (start : Nat) (before after : List Char) :
    offsetsFrom start (before ++ after) =
      offsetsFrom start before ++ offsetsFrom (start + utf8Len before) after := by
  induction before generalizing start with
  | nil => rfl
  | cons c before ih =>
    have hstart : start + c.utf8Size + utf8Len before = start + (utf8Len before + c.utf8Size) := by
      omega
    simp [offsetsFrom, ih, hstart]

theorem le_of_mem_offsetsFrom {start offset : Nat} {cs : List Char}
    (h : offset ∈ offsetsFrom start cs) : start ≤ offset := by
  induction cs generalizing start with
  | nil => exact absurd h List.not_mem_nil
  | cons c cs ih =>
    rcases List.mem_cons.1 h with rfl | h
    · exact Nat.le_refl _
    · exact Nat.le_trans (Nat.le_add_right _ _) (ih h)

theorem lt_of_mem_offsetsFrom {start offset : Nat} {cs : List Char}
    (h : offset ∈ offsetsFrom start cs) : offset < start + utf8Len cs := by
  induction cs generalizing start with
  | nil => exact absurd h List.not_mem_nil
  | cons c cs ih =>
    have hpos := Char.utf8Size_pos c
    rw [String.utf8Len_cons]
    rcases List.mem_cons.1 h with rfl | h
    · omega
    · have := ih h
      omega

/-- The search by halves finds where the entries below the bound end. -/
theorem countBelow_eq {entries : Array Nat} {bound count low high : Nat}
    (below : ∀ i < count, entries.getD i 0 < bound)
    (above : ∀ i < entries.size, count ≤ i → bound ≤ entries.getD i 0)
    (hlow : low ≤ count) (hhigh : count ≤ high) (hsize : high ≤ entries.size) :
    countBelow entries bound low high = count := by
  fun_induction countBelow entries bound low high with
  | case1 low high hlt mid hmid ih =>
    have hmid' : mid < high := by omega
    by_cases h : count ≤ mid
    · have := above mid (by omega) h
      omega
    · exact ih (by omega) hhigh hsize
  | case2 low high hlt mid hmid ih =>
    have hmid' : mid < high := by omega
    by_cases h : mid < count
    · exact absurd (below mid h) hmid
    · exact ih hlow (by omega) (by omega)
  | case3 low high hlt => omega

namespace Subject

variable {s : Subject}

/-- Either there is no table and every character takes one byte, or the table lists them all. -/
theorem offsets_cases (s : Subject) :
    (s.offsets.isEmpty = true ∧ ∀ c ∈ s.text.toList, c.utf8Size = 1) ∨
      (s.offsets.isEmpty = false ∧ s.offsets = (offsetsFrom 0 s.text.toList).toArray) := by
  rw [s.offsets_eq, offsetTable]
  by_cases hascii : s.text.toList.all (fun c => c.val < 0x80) = true
  · rw [if_pos hascii]
    refine .inl ⟨rfl, fun c hc => ?_⟩
    have hlt : c.val < 0x80 := by simpa using List.all_eq_true.1 hascii c hc
    rw [Char.utf8Size_eq_one_iff, UInt32.le_iff_toNat_le]
    exact Nat.le_of_lt_succ (UInt32.lt_iff_toNat_lt.1 hlt)
  · rw [if_neg hascii]
    refine .inr ⟨?_, rfl⟩
    cases hchars : s.text.toList with
    | nil => exact absurd (by rw [hchars]; rfl) hascii
    | cons c cs => rfl

theorem utf8Len_of_forall_one {cs : List Char} (h : ∀ c ∈ cs, c.utf8Size = 1) :
    utf8Len cs = cs.length := by
  induction cs with
  | nil => rfl
  | cons c cs ih =>
    rw [String.utf8Len_cons, ih fun d hd => h d (List.mem_cons_of_mem _ hd), h c List.mem_cons_self,
      List.length_cons]

theorem byteLength_eq (s : Subject) : s.byteLength = utf8Len s.text.toList :=
  (String.utf8Len_toList s.text).symm

theorem charLength_eq (s : Subject) : s.charLength = s.text.toList.length := by
  rcases s.offsets_cases with ⟨hempty, hone⟩ | ⟨hempty, htable⟩
  · rw [charLength, if_pos hempty, byteLength_eq, utf8Len_of_forall_one hone]
  · rw [charLength, if_neg (by simp [hempty]), htable, List.size_toArray, length_offsetsFrom]

/-! ## The two conversions -/

/-- The place after some characters. -/
theorem byteAt?_length {before after : List Char} (hsplit : s.text.toList = before ++ after) :
    s.byteAt? before.length = some (utf8Len before) := by
  have hlength : s.charLength = before.length + after.length := by
    rw [charLength_eq, hsplit, List.length_append]
  have hbytes : s.byteLength = utf8Len before + utf8Len after := by
    rw [byteLength_eq, hsplit, String.utf8Len_append]
  unfold byteAt?
  cases after with
  | nil =>
    rw [if_pos (by simp [hlength]), hbytes]
    rfl
  | cons c after =>
    rw [if_neg (by simp [hlength])]
    rcases s.offsets_cases with ⟨hempty, hone⟩ | ⟨hempty, htable⟩
    · have hbefore : utf8Len before = before.length :=
        utf8Len_of_forall_one fun d hd => hone d (by rw [hsplit]; exact List.mem_append_left _ hd)
      have hpos := Char.utf8Size_pos c
      rw [String.utf8Len_cons] at hbytes
      rw [if_pos hempty, if_pos (by omega), hbefore]
    · rw [if_neg (by simp [hempty]), htable, hsplit, offsetsFrom_append]
      simp [offsetsFrom]

/-- **What `byteAt?` answers**: the place after so many characters, if there are so many. -/
theorem byteAt?_eq_some_iff {index place : Nat} :
    s.byteAt? index = some place ↔
      ∃ before after, s.text.toList = before ++ after ∧ before.length = index ∧
        utf8Len before = place := by
  constructor
  · intro h
    by_cases hindex : index ≤ s.text.toList.length
    · refine ⟨s.text.toList.take index, s.text.toList.drop index,
        (List.take_append_drop _ _).symm, by simp [hindex], ?_⟩
      have hat := s.byteAt?_length (List.take_append_drop index s.text.toList).symm
      rw [List.length_take_of_le hindex, h] at hat
      exact (Option.some.inj hat).symm
    · -- Past the last character there is no entry.
      rw [← charLength_eq] at hindex
      unfold byteAt? at h
      rw [if_neg (by omega)] at h
      unfold charLength at hindex
      split at h
      · next hempty =>
        rw [if_pos hempty] at hindex
        rw [if_neg (by omega)] at h
        exact absurd h (by simp)
      · next hempty =>
        rw [if_neg hempty] at hindex
        rw [Array.getElem?_eq_none (by omega)] at h
        exact absurd h (by simp)
  · rintro ⟨before, after, hsplit, rfl, rfl⟩
    exact byteAt?_length hsplit

theorem isPlace_of_byteAt? {index place : Nat} (h : s.byteAt? index = some place) :
    IsPlace s.text place := by
  obtain ⟨before, after, hsplit, -, rfl⟩ := byteAt?_eq_some_iff.1 h
  exact ⟨before, after, hsplit, rfl⟩

/-- **What `charIndex` answers**: the number of characters before the place. -/
theorem charIndex_eq {before after : List Char} (hsplit : s.text.toList = before ++ after) :
    s.charIndex (utf8Len before) = before.length := by
  unfold charIndex
  rcases s.offsets_cases with ⟨hempty, hone⟩ | ⟨hempty, htable⟩
  · rw [if_pos hempty]
    exact utf8Len_of_forall_one fun d hd => hone d (by rw [hsplit]; exact List.mem_append_left _ hd)
  · rw [if_neg (by simp [hempty]), htable, hsplit, offsetsFrom_append, Nat.zero_add]
    -- The entries of the characters before the place are below it, and those after are not.
    refine countBelow_eq ?_ ?_ (Nat.zero_le _) (by simp) (Nat.le_refl _)
    · intro i hi
      have hi' : i < (offsetsFrom 0 before).length := by simpa using hi
      have hmem := lt_of_mem_offsetsFrom (List.getElem_mem hi')
      simpa [List.getElem?_append_left hi', List.getElem?_eq_getElem hi'] using hmem
    · intro i hi hle
      have hle' : (offsetsFrom 0 before).length ≤ i := by simpa using hle
      have hi' : i - before.length < (offsetsFrom (utf8Len before) after).length := by
        simp at hi ⊢
        omega
      have hmem := le_of_mem_offsetsFrom (List.getElem_mem hi')
      simpa [List.getElem?_append_right hle', List.getElem?_eq_getElem hi'] using hmem

theorem charIndex_byteAt? {index place : Nat} (h : s.byteAt? index = some place) :
    s.charIndex place = index := by
  obtain ⟨before, after, hsplit, rfl, rfl⟩ := byteAt?_eq_some_iff.1 h
  exact charIndex_eq hsplit

theorem byteAt?_eq (s : Subject) (index : Nat) :
    s.byteAt? index =
      if index ≤ s.text.length then some (placeAfter s.text index) else none := by
  split
  · next hle =>
    rw [← String.length_toList] at hle
    exact byteAt?_eq_some_iff.2
      ⟨_, _, (List.take_append_drop index _).symm, List.length_take_of_le hle, rfl⟩
  · next hlt =>
    refine Option.eq_none_iff_forall_ne_some.2 fun place hplace => hlt ?_
    obtain ⟨before, after, hsplit, rfl, -⟩ := byteAt?_eq_some_iff.1 hplace
    rw [← String.length_toList, hsplit, List.length_append]
    exact Nat.le_add_right _ _

theorem charIndex_placeAfter {index : Nat} (h : index ≤ s.text.length) :
    s.charIndex (placeAfter s.text index) = index :=
  charIndex_byteAt? ((s.byteAt?_eq index).trans (if_pos h))

/-- Different numbers of characters lead to different places. -/
theorem placeAfter_inj {text : String} {index index' : Nat} (h : index ≤ text.length)
    (h' : index' ≤ text.length) (heq : placeAfter text index = placeAfter text index') :
    index = index' := by
  have hindex : (ofText text).charIndex (placeAfter text index) = index := charIndex_placeAfter h
  have hindex' : (ofText text).charIndex (placeAfter text index') = index' :=
    charIndex_placeAfter h'
  rw [← hindex, heq, hindex']

theorem charIndex_le_charLength {place : Nat} (h : IsPlace s.text place) :
    s.charIndex place ≤ s.charLength := by
  obtain ⟨before, after, hsplit, rfl⟩ := h
  rw [charIndex_eq hsplit, charLength_eq, hsplit, List.length_append]
  exact Nat.le_add_right _ _

/-- The count of characters grows with the place. -/
theorem charIndex_lt_charIndex {place place' : Nat} (h : IsPlace s.text place)
    (h' : IsPlace s.text place') (hlt : place < place') :
    s.charIndex place < s.charIndex place' := by
  obtain ⟨before, after, hsplit, rfl⟩ := h
  obtain ⟨before', after', hsplit', rfl⟩ := h'
  rw [charIndex_eq hsplit, charIndex_eq hsplit']
  by_contra hle
  -- The longer of two beginnings of a text takes no fewer bytes.
  have hprefix : before' <+: before :=
    List.prefix_of_prefix_length_le ⟨after', hsplit'.symm⟩ ⟨after, hsplit.symm⟩ (by omega)
  have := String.utf8Len_le_of_prefix hprefix
  omega

theorem charIndex_le_charIndex {place place' : Nat} (h : IsPlace s.text place)
    (h' : IsPlace s.text place') (hle : place ≤ place') :
    s.charIndex place ≤ s.charIndex place' := by
  rcases Nat.eq_or_lt_of_le hle with rfl | hlt
  · exact Nat.le_refl _
  · exact Nat.le_of_lt (charIndex_lt_charIndex h h' hlt)

/-! ## Slices -/

theorem take_append_drop_take {α : Type} (cs : List α) {start stop : Nat} (h : start ≤ stop) :
    cs.take start ++ (cs.take stop).drop start = cs.take stop := by
  rw [← Nat.min_eq_left h, ← List.take_take, Nat.min_eq_left h, List.take_append_drop]

/-- A number of characters leads to a place, cut down to how many there are. -/
theorem byteAt?_min (s : Subject) (index : Nat) :
    (s.byteAt? (min index s.charLength)).getD s.byteLength = placeAfter s.text index := by
  have hle : min index s.charLength ≤ s.text.length := by
    rw [charLength_eq, String.length_toList]
    exact Nat.min_le_right _ _
  rw [byteAt?_eq, if_pos hle, Option.getD_some, placeAfter, placeAfter, charLength_eq,
    ← List.take_eq_take_min]

/-- **What `slice` takes**: the characters from `start` up to `stop`. -/
theorem slice_eq (s : Subject) (start stop : Nat) :
    s.slice start stop = String.ofList ((s.text.toList.take stop).drop start) := by
  unfold slice
  dsimp only
  rw [byteAt?_min, byteAt?_min, placeAfter, placeAfter]
  rcases Nat.le_total start stop with hle | hle
  · have hlen := String.utf8Len_le_of_prefix
      (List.take_prefix_take_left hle : s.text.toList.take start <+: s.text.toList.take stop)
    have hextract := String.extract_of_valid (s.text.toList.take start)
      ((s.text.toList.take stop).drop start) (s.text.toList.drop stop)
    rw [← String.utf8Len_append, take_append_drop_take _ hle, List.take_append_drop,
      String.ofList_toList] at hextract
    rw [Nat.max_eq_right hlen, hextract]
  · -- Where the end comes first there is nothing to take.
    have hlen := String.utf8Len_le_of_prefix
      (List.take_prefix_take_left hle : s.text.toList.take stop <+: s.text.toList.take start)
    have hextract := String.extract_of_valid (s.text.toList.take start) []
      (s.text.toList.drop start)
    rw [List.append_nil, List.take_append_drop, String.ofList_toList] at hextract
    rw [Nat.max_eq_left hlen,
      List.drop_eq_nil_of_le (Nat.le_trans (List.length_take_le _ _) hle)]
    exact hextract

/-- Slices that meet make up one. -/
theorem slice_append_slice (s : Subject) {start stop : Nat} (h : start ≤ stop) :
    s.slice 0 start ++ s.slice start stop = s.slice 0 stop := by
  simp only [slice_eq, List.drop_zero, ← String.ofList_append, take_append_drop_take _ h]

theorem slice_all (s : Subject) : s.slice 0 s.charLength = s.text := by
  rw [slice_eq, charLength_eq, List.take_length, List.drop_zero, String.ofList_toList]

end Subject

end DynamicValues
