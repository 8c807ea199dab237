import DynamicValues.Pattern.Escape

/-!
# Bracketed classes

`[a-z]`, with nested classes, POSIX names (`[[:alpha:]]`) and the set operators `&&`, `--` and
`~~`. Operators bind weaker than writing members side by side and group from the left.

The reader keeps the classes that are still open on a stack, so one pass over the text reads any
nesting. Each part also carries its height, the number of composite parts nested in it, because a
pattern has a limit on that.
-/

set_option autoImplicit false

namespace DynamicValues.Pattern

/-- A set operator. -/
inductive SetOperator where
  | intersection
  | difference
  | symmetricDifference
  deriving Repr, DecidableEq

/-- One side of a set operator, or a whole class, with its height. -/
structure ClassPart where
  codes : CodeSet
  height : Nat

/-- Members written side by side: their ranges, how many there are and the greatest height. -/
structure ClassMembers where
  ranges : List (Nat × Nat) := []
  count : Nat := 0
  height : Nat := 0

namespace ClassMembers

def add (members : ClassMembers) (codes : CodeSet) (height : Nat) : ClassMembers where
  ranges := codes.ranges.toList ++ members.ranges
  count := members.count + 1
  height := max members.height height

/-- The members as one part. Two or more count as one composite. -/
def toPart (members : ClassMembers) : ClassPart where
  codes := .ofRanges members.ranges
  height := if members.count ≤ 1 then members.height else members.height + 1

end ClassMembers

/-- What an open class is waiting for. -/
inductive ClassFrame where
  /-- A class was opened inside `outer`. -/
  | opened (negated : Bool) (outer : ClassMembers)
  /-- The left side of an operator was read. -/
  | leftOf (operator : SetOperator) (left : ClassPart)

/-- The part that an operator makes of its sides, each closed under folding first. -/
def combine (modes : Modes) (operator : SetOperator) (left right : ClassPart) : ClassPart :=
  let l := modes.fold left.codes
  let r := modes.fold right.codes
  { codes :=
      match operator with
      | .intersection => l.inter r
      | .difference => l.diff r
      | .symmetricDifference => l.symmDiff r
    height := max left.height right.height + 1 }

/-- Finishes the operator on top of the stack, if there is one. -/
def finishOperator (modes : Modes) (frames : List ClassFrame) (part : ClassPart) :
    List ClassFrame × ClassPart :=
  match frames with
  | .leftOf operator left :: rest => (rest, combine modes operator left part)
  | _ => (frames, part)

/-! ## Members -/

/-- The ranges of a POSIX class. -/
def posixRanges : String → Option (List (Nat × Nat))
  | "alnum" => some [(48, 57), (65, 90), (97, 122)]
  | "alpha" => some [(65, 90), (97, 122)]
  | "ascii" => some [(0, 127)]
  | "blank" => some [(9, 9), (32, 32)]
  | "cntrl" => some [(0, 31), (127, 127)]
  | "digit" => some [(48, 57)]
  | "graph" => some [(33, 126)]
  | "lower" => some [(97, 122)]
  | "print" => some [(32, 126)]
  | "punct" => some [(33, 47), (58, 64), (91, 96), (123, 126)]
  | "space" => some [(9, 13), (32, 32)]
  | "upper" => some [(65, 90)]
  | "word" => some [(48, 57), (65, 90), (95, 95), (97, 122)]
  | "xdigit" => some [(48, 57), (65, 70), (97, 102)]
  | _ => none

/-- A POSIX class after its opening bracket: whether it is negated, its ranges and what is left.
Anything else in this place is an ordinary nested class. -/
def readPosix (text : List Char) : Option (Bool × List (Nat × Nat) × List Char) :=
  match text with
  | ':' :: body =>
    let (negated, body) :=
      match body with
      | '^' :: rest => (true, rest)
      | _ => (false, body)
    match splitAtMark [':'] body with
    | some (name, ']' :: rest) =>
      (posixRanges (String.ofList name)).map fun ranges => (negated, ranges, rest)
    | _ => none
  | _ => none

/-- Reads one character or escape of a class. -/
def readClassAtom (modes : Modes) (text : List Char) : Option (Atom × List Char) :=
  match text with
  | [] => none
  | '\\' :: rest => readEscape modes rest
  | c :: rest => some (.char c, rest)

/-- A class member that is a character. ASCII classes hold ASCII characters only. -/
def classChar (modes : Modes) : Atom → Option Char
  | .char c => if modes.unicode || c.val < 0x80 then some c else none
  | _ => none

/-- A class member that stands alone. -/
def classSet (modes : Modes) : Atom → Option CodeSet
  | .set codes => some codes
  | atom => (classChar modes atom).map .singleton

/-- Reads a member: a class escape, a character or a range. A `-` before `]` or another `-` is not
a range. -/
def readMember (modes : Modes) (text : List Char) : Option (CodeSet × List Char) := do
  let (first, rest) ← readClassAtom modes text
  let rest := modes.skipBlanks rest
  match rest with
  | [] => none
  | c :: more =>
    let next := (modes.skipBlanks more).head?
    if c != '-' || next == some ']' || next == some '-' then
      let codes ← classSet modes first
      some (codes, rest)
    else
      let (last, rest) ← readClassAtom modes (modes.skipBlanks more)
      let low ← classChar modes first
      let high ← classChar modes last
      if low ≤ high then some (.ofRange low.toNat high.toNat, rest) else none

/-- Reads the dashes at the start of a class, which are members. -/
def readDashes (modes : Modes) (members : ClassMembers) : (steps : Nat) → List Char →
    ClassMembers × List Char
  | 0, text => (members, text)
  | steps + 1, text =>
    match text with
    | '-' :: rest =>
      readDashes modes (members.add (.singleton '-') 0) steps (modes.skipBlanks rest)
    | _ => (members, text)

/-- Reads what follows an opening bracket: `^`, then dashes, then a `]` that is a member because it
comes first. -/
def readClassStart (modes : Modes) (text : List Char) : Bool × ClassMembers × List Char :=
  let text := modes.skipBlanks text
  let (negated, text) :=
    match text with
    | '^' :: rest => (true, modes.skipBlanks rest)
    | _ => (false, text)
  let (members, text) := readDashes modes {} text.length text
  match members.count, text with
  | 0, ']' :: rest => (negated, members.add (.singleton ']') 0, rest)
  | _, _ => (negated, members, text)

/-! ## The whole class -/

/-- Reads on from inside an open class. Each step reads at least one character, so as many steps as
there are characters suffice. -/
def readClassFrom (modes : Modes) : (steps : Nat) → List ClassFrame → ClassMembers → List Char →
    Option (ClassPart × List Char)
  | 0, _, _, _ => none
  | steps + 1, frames, members, text =>
    let operator (op : SetOperator) (rest : List Char) : Option (ClassPart × List Char) :=
      let (frames, part) := finishOperator modes frames members.toPart
      readClassFrom modes steps (.leftOf op part :: frames) {} rest
    match modes.skipBlanks text with
    | [] => none
    | '[' :: rest =>
      match readPosix rest with
      | some (negated, ranges, rest) =>
        match modes.finishSet negated (.ofRanges ranges) with
        | some codes => readClassFrom modes steps frames (members.add codes 0) rest
        | none => none
      | none =>
        let (negated, inner, rest) := readClassStart modes rest
        readClassFrom modes steps (.opened negated members :: frames) inner rest
    | ']' :: rest =>
      match finishOperator modes frames members.toPart with
      | (.opened negated outer :: frames, part) =>
        match modes.finishSet negated part.codes with
        | some codes =>
          if frames.isEmpty then some (⟨codes, part.height + 1⟩, rest)
          else readClassFrom modes steps frames (outer.add codes (part.height + 1)) rest
        | none => none
      | _ => none
    | '&' :: '&' :: rest => operator .intersection rest
    | '-' :: '-' :: rest => operator .difference rest
    | '~' :: '~' :: rest => operator .symmetricDifference rest
    | text =>
      match readMember modes text with
      | some (codes, rest) => readClassFrom modes steps frames (members.add codes 0) rest
      | none => none

/-- Reads a class after its opening bracket. -/
def readClass (modes : Modes) (text : List Char) : Option (ClassPart × List Char) :=
  let (negated, members, rest) := readClassStart modes text
  readClassFrom modes (rest.length + 1) [.opened negated {}] members rest

end DynamicValues.Pattern
