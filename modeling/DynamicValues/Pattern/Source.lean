import DynamicValues.Pattern.Bracket

/-!
# The written form of patterns

`Node.ofSource?` reads pattern text into a tree, or refuses it. The reader walks the text once and
keeps the groups that are still open on a stack.

A directive such as `(?i)` matches nothing and holds to the end of the group it stands in, later
alternatives included; a quantifier cannot follow it. Groups are numbered by their opening
parentheses. A pattern may nest composite parts (groups, classes, repetitions, sequences and choices
of two or more) at most `nestLimit` deep.
-/

set_option autoImplicit false

namespace DynamicValues.Pattern

/-- How deep composite parts may nest. -/
def nestLimit : Nat := 250

/-- A part of a sequence with its height, the number of composite parts nested in it. -/
structure Item where
  node : Node
  height : Nat := 0
  /-- A directive, which no quantifier may follow. -/
  isDirective : Bool := false

/-- A group while it is read: the alternatives read so far and the parts of the last one, both
latest first. -/
structure Level where
  alternatives : List Item := []
  items : List Item := []

namespace Level

def push (level : Level) (item : Item) : Level := { level with items := item :: level.items }

/-- The last alternative as one part. -/
def sequence (level : Level) : Item :=
  match level.items with
  | [] => { node := .empty }
  | [item] => { node := item.node, height := item.height }
  | items =>
    { node := .sequence (items.reverse.map Item.node)
      height := (items.foldl (fun h item => max h item.height) 0) + 1 }

/-- Ends an alternative. -/
def alternate (level : Level) : Level := { alternatives := level.sequence :: level.alternatives }

/-- All alternatives as one part. -/
def close (level : Level) : Item :=
  match level.alternatives with
  | [] => level.sequence
  | alternatives =>
    let all := level.sequence :: alternatives
    { node := .choices (all.reverse.map Item.node)
      height := (all.foldl (fun h item => max h item.height) 0) + 1 }

end Level

/-- What an open group returns to when it closes. -/
structure OpenGroup where
  /-- The number of a capture group. -/
  number : Option Nat
  modes : Modes
  outer : Level

/-- The state of the reader. -/
structure Reading where
  text : List Char
  modes : Modes
  groupCount : Nat := 0
  names : List String := []
  openGroups : List OpenGroup := []
  level : Level := {}

namespace Reading

/-- Adds a part and goes on with `rest`. -/
def add (r : Reading) (item : Item) (rest : List Char) : Reading :=
  { r with text := rest, level := r.level.push item }

/-! ## Quantifiers -/

/-- Repeats the last part of the sequence. -/
def quantify (r : Reading) (low : Nat) (high : Option Nat) (greedy : Bool) (rest : List Char) :
    Option Reading :=
  match r.level.items with
  | [] => none
  | item :: items =>
    if item.isDirective then none
    else
      let node := item.node.repeated low high (greedy != r.modes.swapGreed)
      some { r with
        text := rest
        level := { r.level with items := { node, height := item.height + 1 } :: items } }

/-- Reads `?` right after a quantifier, which makes it lazy. -/
def readGreed (text : List Char) : Bool × List Char :=
  match text with
  | '?' :: rest => (false, rest)
  | _ => (true, text)

def dropPatternBlanks (text : List Char) : List Char := text.dropWhile isPatternBlank

/-- Reads the digits of a count onto `value`; blanks between them count only where they always do.
Answers how many digits there were. -/
def readDigits (modes : Modes) : (steps : Nat) → (digits value : Nat) → List Char →
    Nat × Nat × List Char
  | 0, digits, value, text => (digits, value, text)
  | steps + 1, digits, value, text =>
    match text with
    | c :: rest =>
      if c.isDigit then
        readDigits modes steps (digits + 1) (value * 10 + (c.toNat - '0'.toNat))
          (modes.skipBlanks rest)
      else (digits, value, text)
    | [] => (digits, value, text)

/-- Reads a count with blanks around it. The outer `none` is a malformed count, the inner one a
missing count. -/
def readCount (modes : Modes) (text : List Char) : Option (Option Nat × List Char) :=
  let text := dropPatternBlanks text
  let (digits, value, rest) := readDigits modes text.length 0 0 text
  let rest := modes.skipBlanks (dropPatternBlanks rest)
  if digits = 0 then some (none, rest)
  else if value < UInt32.size then some (some value, rest) else none

/-- Reads a quantifier in braces after the opening one: `n`, `n,` or `n,m`. -/
def readCounted (r : Reading) (text : List Char) : Option Reading := do
  let (low, rest) ← readCount r.modes (r.modes.skipBlanks text)
  let low ← low
  let (high, rest) ←
    match rest with
    | ',' :: rest =>
      match r.modes.skipBlanks rest with
      | '\x7d' :: rest => some (none, '\x7d' :: rest)
      | rest => do
        let (high, rest) ← readCount r.modes rest
        let high ← high
        some (some high, rest)
    | rest => some (some low, rest)
  match rest with
  | '\x7d' :: rest =>
    let (greedy, rest) := readGreed (r.modes.skipBlanks rest)
    match high with
    | some high => if low ≤ high then r.quantify low (some high) greedy rest else none
    | none => r.quantify low none greedy rest
  | _ => none

/-! ## Groups -/

/-- Opens a group. -/
def openGroup (r : Reading) (number : Option Nat) (modes : Modes) (rest : List Char) : Reading :=
  { r with
    text := rest
    modes := modes
    openGroups := { number, modes := r.modes, outer := r.level } :: r.openGroups
    level := {} }

/-- Opens the next capture group. -/
def openCapture (r : Reading) (rest : List Char) : Reading :=
  { r with groupCount := r.groupCount + 1 }.openGroup (some (r.groupCount + 1)) r.modes rest

/-- Whether `c` may stand in a group name. -/
def isNameChar (isFirst : Bool) (c : Char) : Bool :=
  c == '_' || Unicode.alphabetic.contains c
    || (!isFirst && (c == '.' || c == '[' || c == ']' || Unicode.numeric.contains c))

/-- Opens a named capture group; `text` follows the opening angle bracket. -/
def openNamed (r : Reading) (text : List Char) : Option Reading :=
  match splitAtMark ['>'] text with
  | some (first :: more, rest) =>
    let name := String.ofList (first :: more)
    if isNameChar true first && more.all (isNameChar false) && !r.names.contains name then
      some ({ r with names := name :: r.names }.openCapture rest)
    else none
  | _ => none

/-- Reads mode letters up to `:` or `)`: the modes they lead to, whether there was any letter, and
what is left from the end mark on. Each letter may occur once, and a `-` must have one after it. -/
def readModes (modes : Modes) (seen : List Char) (on : Bool) : List Char →
    Option (Modes × Bool × List Char)
  | [] => none
  | c :: rest =>
    if c == ':' || c == ')' then
      if seen.head? == some '-' then none else some (modes, !seen.isEmpty, c :: rest)
    else if seen.contains c then none
    else if c == '-' then readModes modes (c :: seen) false rest
    else
      match modes.set? c on with
      | some modes => readModes modes (c :: seen) on rest
      | none => none

/-- Reads what follows an opening parenthesis. Look-around is refused. -/
def readGroup (r : Reading) (text : List Char) : Option Reading :=
  match r.modes.skipBlanks text with
  | '?' :: '=' :: _ => none
  | '?' :: '!' :: _ => none
  | '?' :: '<' :: '=' :: _ => none
  | '?' :: '<' :: '!' :: _ => none
  | '?' :: 'P' :: '<' :: rest => r.openNamed rest
  | '?' :: '<' :: rest => r.openNamed rest
  | '?' :: rest =>
    match readModes r.modes [] true rest with
    | some (modes, _, ':' :: rest) => some (r.openGroup none modes rest)
    | some (modes, true, ')' :: rest) =>
      some { r.add { node := .empty, isDirective := true } rest with modes := modes }
    | _ => none
  | rest => some (r.openCapture rest)

/-- Closes the innermost group. -/
def closeGroup (r : Reading) (rest : List Char) : Option Reading :=
  match r.openGroups with
  | [] => none
  | group :: openGroups =>
    let body := r.level.close
    let node :=
      match group.number with
      | some number => .group number body.node
      | none => body.node
    some { r with
      text := rest
      modes := group.modes
      openGroups := openGroups
      level := group.outer.push { node, height := body.height + 1 } }

/-! ## The whole pattern -/

/-- The set of `.`: every character, or every one that ends no line. In ASCII mode it would match
parts of characters. -/
def dotSet (modes : Modes) : Option CodeSet :=
  if !modes.unicode then none
  else if modes.dotAll then some .all
  else if modes.crlf then some (CodeSet.ofRanges [(10, 10), (13, 13)]).complement
  else some (CodeSet.ofRange 10 10).complement

/-- Reads one part. The text is not empty and starts with no skipped blank. -/
def step (r : Reading) (c : Char) (rest : List Char) : Option Reading :=
  match c with
  | '(' => r.readGroup rest
  | ')' => r.closeGroup rest
  | '|' => some { r with text := rest, level := r.level.alternate }
  | '[' => (readClass r.modes rest).map fun (part, rest) =>
      r.add { node := .chars part.codes, height := part.height } rest
  | '?' => let (greedy, rest) := readGreed rest; r.quantify 0 (some 1) greedy rest
  | '*' => let (greedy, rest) := readGreed rest; r.quantify 0 none greedy rest
  | '+' => let (greedy, rest) := readGreed rest; r.quantify 1 none greedy rest
  | '\x7b' => r.readCounted rest
  | '.' => (dotSet r.modes).map fun codes => r.add { node := .chars codes } rest
  | '^' =>
    let test := if r.modes.multiLine then .lineStart r.modes.crlf else .textStart
    some (r.add { node := .assert test } rest)
  | '$' =>
    let test := if r.modes.multiLine then .lineEnd r.modes.crlf else .textEnd
    some (r.add { node := .assert test } rest)
  | '\\' => (readEscape r.modes rest).map fun (atom, rest) =>
      match atom with
      | .char c => r.add { node := .chars (r.modes.charSet c) } rest
      | .set codes => r.add { node := .chars codes } rest
      | .test assertion => r.add { node := .assert assertion } rest
  | c => some (r.add { node := .chars (r.modes.charSet c) } rest)

/-- Reads to the end of the text. Each step reads at least one character. -/
def run : (steps : Nat) → Reading → Option Reading
  | 0, _ => none
  | steps + 1, r =>
    match r.modes.skipBlanks r.text with
    | [] => some { r with text := [] }
    | c :: rest => (r.step c rest).bind (run steps)

end Reading

/-- Reads a pattern. `none` if the text is malformed, leaves a group open or nests too deep. -/
def Node.ofSource? (source : String) (modifiers : Modifiers) : Option Node := do
  let text := source.toList
  let r ← Reading.run (text.length + 1) { text, modes := Modes.ofModifiers modifiers }
  if r.openGroups.isEmpty then
    let whole := r.level.close
    if whole.height ≤ nestLimit then some whole.node else none
  else none

end DynamicValues.Pattern
