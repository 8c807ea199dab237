/-!
# Subjects: text indexed by character and by byte

Positions and captures are told in characters, the text is searched in bytes. A `Subject` is a text
with the table that converts between the two. ASCII text needs no table, since the two counts
agree, so its table is empty; `offsets_eq` says that the table is always the right one for the text.
-/

set_option autoImplicit false

namespace DynamicValues

/-- The byte offset of each character of a text that starts at byte `start`. -/
def offsetsFrom (start : Nat) : List Char → List Nat
  | [] => []
  | c :: rest => start :: offsetsFrom (start + c.utf8Size) rest

/-- The table of a text: the byte offset of every character, or nothing for ASCII text. -/
def offsetTable (text : String) : Array Nat :=
  if text.toList.all (fun c => c.val < 0x80) then #[] else (offsetsFrom 0 text.toList).toArray

/-- The number of leading entries that are below `bound`, by binary search between `low` and
`high`. The entries ascend. -/
def countBelow (entries : Array Nat) (bound low high : Nat) : Nat :=
  if _h : low < high then
    let mid := low + (high - low) / 2
    if entries.getD mid 0 < bound then countBelow entries bound (mid + 1) high
    else countBelow entries bound low mid
  else low
termination_by high - low

/-- The character that starts at a byte offset. -/
def charAt? (text : String) (place : Nat) : Option Char :=
  if place < text.utf8ByteSize then some (String.Pos.Raw.get text ⟨place⟩) else none

theorem lt_of_charAt? {text : String} {place : Nat} {c : Char} (h : charAt? text place = some c) :
    place < text.utf8ByteSize := by
  unfold charAt? at h
  split at h
  · assumption
  · simp at h

/-- A text with its offset table. -/
structure Subject where
  text : String
  offsets : Array Nat
  offsets_eq : offsets = offsetTable text := by rfl

namespace Subject

def ofText (text : String) : Subject := { text, offsets := offsetTable text }

instance : Inhabited Subject := ⟨ofText ""⟩

/-- A subject is determined by its text. -/
theorem ext_text {s t : Subject} (h : s.text = t.text) : s = t := by
  obtain ⟨text, offsets, hs⟩ := s
  obtain ⟨text', offsets', ht⟩ := t
  subst hs ht
  simp only at h
  subst h
  rfl

@[simp] theorem text_ofText (text : String) : (ofText text).text = text := rfl

/-- The number of bytes. -/
def byteLength (s : Subject) : Nat := s.text.utf8ByteSize

/-- The number of characters. -/
def charLength (s : Subject) : Nat :=
  if s.offsets.isEmpty then s.byteLength else s.offsets.size

/-- The byte offset of a character; the length in bytes for the place after the last one, and
nothing past that. -/
def byteAt? (s : Subject) (index : Nat) : Option Nat :=
  if index = s.charLength then some s.byteLength
  else if s.offsets.isEmpty then if index < s.byteLength then some index else none
  else s.offsets[index]?

/-- The index of the character that starts at a byte offset. -/
def charIndex (s : Subject) (byte : Nat) : Nat :=
  if s.offsets.isEmpty then byte else countBelow s.offsets byte 0 s.offsets.size

/-- The characters from `start` up to `stop`, both cut down to the length of the text. -/
def slice (s : Subject) (start stop : Nat) : String :=
  let first := (s.byteAt? (min start s.charLength)).getD s.byteLength
  let last := max first ((s.byteAt? (min stop s.charLength)).getD s.byteLength)
  String.Pos.Raw.extract s.text ⟨first⟩ ⟨last⟩

end Subject

end DynamicValues
