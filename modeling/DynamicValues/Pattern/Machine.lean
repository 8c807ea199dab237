import DynamicValues.Pattern.Compiled
import DynamicValues.Pattern.Program
import DynamicValues.Text.Subject
import DynamicValues.Unicode.Lookup

/-!
# Running a program on a text

All paths through a program advance together, one character at a time, in order of preference. At
each place an instruction is entered at most once, by the most preferred path that reaches it, so
the work is bounded by the size of the program times the length of the text.

Places in the text are byte offsets. `search` finds the leftmost match and among those the most
preferred one; `longest` finds the longest match at a given place and its most preferred path.
-/

set_option autoImplicit false

namespace DynamicValues.Pattern

/-- The character that ends at a byte offset. -/
def charBefore? (text : String) (place : Nat) : Option Char :=
  if place = 0 then none
  else some (String.Pos.Raw.get text (String.Pos.Raw.prev text ⟨place⟩))

/-! ## Assertions -/

/-- Whether a character belongs to a word. -/
def isWord (unicode : Bool) (c : Char) : Bool :=
  if c.val < 0x80 then c.isAlphanum || c == '_'
  else unicode && Unicode.wordCharacters.contains c

def WordTest.holds (test : WordTest) (before after : Bool) : Bool :=
  match test with
  | .boundary => before != after
  | .noBoundary => before == after
  | .start => !before && after
  | .finish => before && !after
  | .startHalf => !before
  | .finishHalf => !after

/-- Whether the test holds between the two characters; `none` is the start or end of the text. -/
def Assertion.holds (test : Assertion) (before after : Option Char) : Bool :=
  match test with
  | .textStart => before.isNone
  | .textEnd => after.isNone
  | .lineStart false => before.isNone || before == some '\n'
  | .lineStart true =>
    before.isNone || before == some '\n' || (before == some '\r' && after != some '\n')
  | .lineEnd false => after.isNone || after == some '\n'
  | .lineEnd true =>
    after.isNone || after == some '\r' || (after == some '\n' && before != some '\r')
  | .word test unicode => test.holds (before.any (isWord unicode)) (after.any (isWord unicode))

/-! ## Paths -/

/-- Noted places, two slots for each group. -/
abbrev Slots := Array (Option Nat)

/-- A path: the instruction it is at and the places it has noted. -/
structure Thread where
  pc : Nat
  slots : Slots

/-- The instructions already entered at a place. At most `room` more can be entered. -/
structure Entered where
  marks : Array Bool
  room : Nat

namespace Entered

def fresh (size : Nat) : Entered := ⟨Array.replicate size false, size⟩

end Entered

/-- The paths that wait at a reading or accepting instruction, most preferred first, with the
instructions entered on the way. -/
structure Front where
  entered : Entered
  threads : Array Thread

def Front.fresh (size : Nat) : Front := ⟨.fresh size, #[]⟩

/-- Follows every path on the stack, topmost first, to the instructions where it waits. -/
def Front.follow (front : Front) (code : Code) (place : Nat) (before after : Option Char)
    (stack : List Thread) : Front :=
  match stack with
  | [] => front
  | thread :: stack =>
    match front.entered.marks[thread.pc]?, _h : front.entered.room with
    | some false, room + 1 =>
      let entered : Entered := ⟨front.entered.marks.setIfInBounds thread.pc true, room⟩
      match code[thread.pc]? with
      | some (.branch first second) =>
        follow ⟨entered, front.threads⟩ code place before after
          (⟨first, thread.slots⟩ :: ⟨second, thread.slots⟩ :: stack)
      | some (.note slot next) =>
        follow ⟨entered, front.threads⟩ code place before after
          (⟨next, thread.slots.setIfInBounds slot (some place)⟩ :: stack)
      | some (.assert test next) =>
        follow ⟨entered, front.threads⟩ code place before after
          (if test.holds before after then ⟨next, thread.slots⟩ :: stack else stack)
      | some (.read _ _) | some .accept =>
        follow ⟨entered, front.threads.push thread⟩ code place before after stack
      | none => follow ⟨entered, front.threads⟩ code place before after stack
    | _, _ => follow front code place before after stack
termination_by (front.entered.room, stack.length)

/-! ## Advancing -/

/-- What one place in the text yields: the slots of a match that ends here and the front at the
next place. -/
structure Advance where
  accepted : Option Slots
  next : Front

/-- Lets the waiting paths read the character `c` at `place`, most preferred first; `afterNext` is
the character after it. A path that accepts ends the round unless `all` paths are wanted. -/
def advance (code : Code) (all : Bool) (place : Nat) (c : Option Char) (afterNext : Option Char) :
    List Thread → Advance → Advance
  | [], result => result
  | thread :: threads, result =>
    match code[thread.pc]? with
    | some .accept =>
      let result := { result with accepted := result.accepted.or (some thread.slots) }
      if all then advance code all place c afterNext threads result else result
    | some (.read set next) =>
      match c with
      | some char =>
        if set.contains char then
          let next := result.next.follow code (place + char.utf8Size) c afterNext
            [⟨next, thread.slots⟩]
          advance code all place c afterNext threads { result with next }
        else advance code all place c afterNext threads result
      | none => advance code all place c afterNext threads result
    | _ => advance code all place c afterNext threads result

/-- How a run looks for matches. -/
inductive Mode where
  /-- Anywhere from the first place on; the first accepting path wins. -/
  | leftmost
  /-- At the first place only; the last place with an accepting path wins. -/
  | longest
  deriving DecidableEq

/-- Runs on from `place`, with the front that was carried there and the best match so far. -/
def Program.runFrom (program : Program) (text : String) (mode : Mode) (isFirst : Bool)
    (place : Nat) (front : Front) (best : Option Slots) : Option Slots :=
  let before := charBefore? text place
  let current := charAt? text place
  let starts := match mode with
    | .leftmost => best.isNone
    | .longest => isFirst
  let front :=
    if starts then
      front.follow program.code place before current
        [⟨program.start, Array.replicate (2 * program.groups) none⟩]
    else front
  if front.threads.isEmpty && !(mode == .leftmost && best.isNone) then best
  else
    match _h : current with
    | none =>
      (advance program.code (mode == .longest) place none none front.threads.toList
        ⟨none, .fresh 0⟩).accepted.or best
    | some c =>
      let afterNext := charAt? text (place + c.utf8Size)
      let result := advance program.code (mode == .longest) place (some c) afterNext
        front.threads.toList ⟨none, .fresh program.code.size⟩
      program.runFrom text mode false (place + c.utf8Size) result.next (result.accepted.or best)
termination_by text.utf8ByteSize - place
decreasing_by
  have := lt_of_charAt? _h
  have := Char.utf8Size_pos c
  omega

/-! ## Matches -/

/-- The spans that were noted in pairs of slots. -/
def groupsOfSlots (groups : Nat) (slots : Slots) : ByteGroups :=
  (List.range groups).map fun i =>
    match slots[2 * i]?, slots[2 * i + 1]? with
    | some (some start), some (some stop) => some (start, stop)
    | _, _ => none

/-- The leftmost match that starts at or after `place`, and of those the most preferred one.
Assertions see the whole text. -/
def Program.search (program : Program) (text : String) (place : Nat) : Option ByteGroups :=
  (program.runFrom text .leftmost true place (.fresh program.code.size) none).map
    (groupsOfSlots program.groups)

/-- The longest match that starts at `place`, by the most preferred of the paths with that end. -/
def Program.longest (program : Program) (text : String) (place : Nat) : Option ByteGroups :=
  (program.runFrom text .longest true place (.fresh program.code.size) none).map
    (groupsOfSlots program.groups)

end DynamicValues.Pattern
