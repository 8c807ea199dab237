/-!
# Pattern modifiers

The letters that may follow a pattern. Four of them (`m`, `s`, `i`, `x`) change what the pattern
means and are part of its text form; `g` and `c` only steer a match.
-/

set_option autoImplicit false

namespace DynamicValues

/-- The modifiers of a pattern or of one match. -/
structure Modifiers where
  /-- `i`: letters match in either case. -/
  caseInsensitive : Bool := false
  /-- `m`: `^` and `$` match at line ends. -/
  multiLine : Bool := false
  /-- `s`: `.` matches a line feed. -/
  dotAll : Bool := false
  /-- `x`: blanks and comments in the pattern do not count. -/
  extended : Bool := false
  /-- `g`: resume from the position of the match state. -/
  isGlobal : Bool := false
  /-- `c`: keep the position when a global match fails. -/
  keepPosition : Bool := false
  deriving Repr, DecidableEq, Inhabited

namespace Modifiers

/-- The modifiers of either side. -/
def union (a b : Modifiers) : Modifiers where
  caseInsensitive := a.caseInsensitive || b.caseInsensitive
  multiLine := a.multiLine || b.multiLine
  dotAll := a.dotAll || b.dotAll
  extended := a.extended || b.extended
  isGlobal := a.isGlobal || b.isGlobal
  keepPosition := a.keepPosition || b.keepPosition

/-- Turns on the modifier with this letter. Other letters change nothing. -/
def addLetter (m : Modifiers) : Char → Modifiers
  | 'i' => { m with caseInsensitive := true }
  | 'm' => { m with multiLine := true }
  | 's' => { m with dotAll := true }
  | 'x' => { m with extended := true }
  | 'g' => { m with isGlobal := true }
  | 'c' => { m with keepPosition := true }
  | _ => m

/-- Reads modifier letters in any order. -/
def ofLetters (letters : String) : Modifiers := letters.toList.foldl addLetter {}

/-- One bit per modifier, `i` lowest, then `m`, `s`, `x`, `g`, `c`. -/
def bits (m : Modifiers) : Nat :=
  m.caseInsensitive.toNat + 2 * m.multiLine.toNat + 4 * m.dotAll.toNat + 8 * m.extended.toNat
    + 16 * m.isGlobal.toNat + 32 * m.keepPosition.toNat

/-- The letters that are part of a pattern's text form, in the order `msix`. -/
def letters (m : Modifiers) : String :=
  (if m.multiLine then "m" else "") ++ (if m.dotAll then "s" else "")
    ++ (if m.caseInsensitive then "i" else "") ++ (if m.extended then "x" else "")

end Modifiers

end DynamicValues
