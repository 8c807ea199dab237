/-!
# Sets of characters as sorted ranges

A `CodeSet` is a set of code points kept as ascending, disjoint, closed ranges. The set operations
a bracketed class needs (union, complement, intersection, difference, symmetric difference) all go
through `ofRanges`, which sorts and merges, so two spellings of one set become one value.

The ranges may name surrogate code points. No character is one, so `contains` never sees them.
-/

set_option autoImplicit false

namespace DynamicValues

/-- A set of code points: ascending ranges, ends included, no two of them touching. -/
structure CodeSet where
  ranges : Array (Nat × Nat)
  deriving Repr, BEq, Inhabited

namespace CodeSet

/-- The largest code point. -/
def maxCode : Nat := 0x10FFFF

/-- One more range after those read so far, joined to the last one where the two touch. -/
def appendRange (out : Array (Nat × Nat)) (range : Nat × Nat) : Array (Nat × Nat) :=
  match out.back? with
  | some last =>
    if range.1 ≤ last.2 + 1 then out.pop.push (last.1, max last.2 range.2) else out.push range
  | none => out.push range

/-- The set of all code points in any of the given ranges. -/
def ofRanges (ranges : List (Nat × Nat)) : CodeSet :=
  ⟨(ranges.mergeSort fun a b => decide (a.1 ≤ b.1)).foldl appendRange #[]⟩

def empty : CodeSet := ⟨#[]⟩

/-- Every code point. -/
def all : CodeSet := ⟨#[(0, maxCode)]⟩

def ofRange (low high : Nat) : CodeSet := if low ≤ high then ⟨#[(low, high)]⟩ else empty

def singleton (c : Char) : CodeSet := ofRange c.toNat c.toNat

def isEmpty (s : CodeSet) : Bool := s.ranges.isEmpty

/-- Binary search for the range that holds `code` among those with index in `low ..< high`. -/
def containsFrom (s : CodeSet) (code low high : Nat) : Bool :=
  if _h : low < high then
    let mid := low + (high - low) / 2
    match s.ranges[mid]? with
    | some (first, last) =>
      if code < first then s.containsFrom code low mid
      else if last < code then s.containsFrom code (mid + 1) high
      else true
    | none => false
  else false
termination_by high - low

/-- Whether `code` is in the set. -/
def containsCode (s : CodeSet) (code : Nat) : Bool := s.containsFrom code 0 s.ranges.size

/-- Whether `c` is in the set. -/
def contains (s : CodeSet) (c : Char) : Bool := s.containsCode c.toNat

/-- Whether every member is an ASCII character. -/
def isAscii (s : CodeSet) : Bool := s.ranges.all fun range => range.2 < 0x80

def union (s t : CodeSet) : CodeSet := ofRanges (s.ranges.toList ++ t.ranges.toList)

/-- The gaps between ascending ranges, from `next` on. -/
def gaps (next : Nat) : List (Nat × Nat) → List (Nat × Nat)
  | [] => if next ≤ maxCode then [(next, maxCode)] else []
  | (first, last) :: rest =>
    if next < first then (next, first - 1) :: gaps (last + 1) rest else gaps (last + 1) rest

/-- The code points outside the set. -/
def complement (s : CodeSet) : CodeSet := ⟨(gaps 0 s.ranges.toList).toArray⟩

def inter (s t : CodeSet) : CodeSet := (s.complement.union t.complement).complement

/-- The members of `s` that are not in `t`. -/
def diff (s t : CodeSet) : CodeSet := s.inter t.complement

/-- The members of exactly one of `s` and `t`. -/
def symmDiff (s t : CodeSet) : CodeSet := (s.union t).diff (s.inter t)

/-! ## The text form of a table -/

/-- The value of hexadecimal digits in upper case. -/
def hexValue (digits : String.Slice) : Nat :=
  digits.foldl (fun n c =>
    n * 16 + (if c.isDigit then c.toNat - '0'.toNat else c.toNat - 'A'.toNat + 10)) 0

/-- Reads one `low-high` or `code` entry of a table. -/
def readRange (entry : String.Slice) : Nat × Nat :=
  match (entry.split '-').toList with
  | [low, high] => (hexValue low, hexValue high)
  | _ => (hexValue entry, hexValue entry)

/-- Reads a table: entries in hexadecimal, separated by blanks or line ends. -/
def ofTable (table : String) : CodeSet :=
  ofRanges <| (table.split Char.isWhitespace).toList.filterMap fun entry =>
    if entry.isEmpty then none else some (readRange entry)

end CodeSet

end DynamicValues
