import DynamicValues.Pattern.Modifiers

/-!
# Reading modes

What a stretch of pattern text means depends on switches that `(?flags)` and `(?flags:…)` turn on
and off inside the pattern. `Modes` holds them; the modifiers written after the pattern set the
first four. Blanks between the parts of a pattern are skipped here too, since one of the switches
decides whether they count.
-/

set_option autoImplicit false

namespace DynamicValues.Pattern

/-- The switches in force at a place in the pattern text. -/
structure Modes where
  caseInsensitive : Bool := false
  multiLine : Bool := false
  dotAll : Bool := false
  /-- Blanks and comments do not count. -/
  extended : Bool := false
  /-- `U`: a plain quantifier is lazy and one with `?` is greedy. -/
  swapGreed : Bool := false
  /-- Classes and word tests know every script, not ASCII only. -/
  unicode : Bool := true
  /-- `R`: a carriage return also ends a line. -/
  crlf : Bool := false
  deriving Repr, DecidableEq, Inhabited

namespace Modes

/-- The modes a pattern starts in. -/
def ofModifiers (m : Modifiers) : Modes where
  caseInsensitive := m.caseInsensitive
  multiLine := m.multiLine
  dotAll := m.dotAll
  extended := m.extended

/-- Sets the switch with this letter; `none` if there is no such switch. -/
def set? (modes : Modes) (letter : Char) (on : Bool) : Option Modes :=
  match letter with
  | 'i' => some { modes with caseInsensitive := on }
  | 'm' => some { modes with multiLine := on }
  | 's' => some { modes with dotAll := on }
  | 'x' => some { modes with extended := on }
  | 'U' => some { modes with swapGreed := on }
  | 'u' => some { modes with unicode := on }
  | 'R' => some { modes with crlf := on }
  | _ => none

end Modes

/-- White space in pattern text. -/
def isPatternBlank (c : Char) : Bool :=
  ('\t' ≤ c && c ≤ '\x0d') || c == ' ' || c == '\u0085' || c == '\u00a0' || c == '\u1680'
    || ('\u2000' ≤ c && c ≤ '\u200a') || c == '\u2028' || c == '\u2029' || c == '\u202f'
    || c == '\u205f' || c == '\u3000'

/-- Drops blanks and comments; `inComment` says that a comment is open. A comment runs from `#` to
the end of its line. -/
def dropBlanks (inComment : Bool) : List Char → List Char
  | [] => []
  | c :: rest =>
    if inComment then dropBlanks (c != '\n') rest
    else if isPatternBlank c then dropBlanks false rest
    else if c == '#' then dropBlanks true rest
    else c :: rest

/-- What is left of the pattern text after blanks and comments, where those do not count. -/
def Modes.skipBlanks (modes : Modes) (text : List Char) : List Char :=
  if modes.extended then dropBlanks false text else text

end DynamicValues.Pattern
