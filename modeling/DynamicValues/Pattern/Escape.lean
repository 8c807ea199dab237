import DynamicValues.Pattern.Modes
import DynamicValues.Pattern.Node
import DynamicValues.Unicode.Lookup

/-!
# Escapes

What a backslash and the characters after it stand for: a character (`\n`, `\x41`, `\u{1F600}`,
`\*`), a class (`\d`, `\p{Greek}`) or a test (`\A`, `\b{start}`). An escape of an ASCII letter or
digit that is none of these is refused, and so is one of a non-ASCII character.

Readers here take the text that is left and answer what was read with what is left after it, or
`none` where the text is malformed.
-/

set_option autoImplicit false

namespace DynamicValues.Pattern

/-- What an escape, or a plain character in a class, stands for. -/
inductive Atom where
  | char (c : Char)
  | set (codes : CodeSet)
  | test (assertion : Assertion)

/-- Characters that mean something unescaped. -/
def isMeta (c : Char) : Bool := "\\.+*?()|[]\x7b\x7d^$#&-~".toList.contains c

/-- Whether a backslash before `c` just means `c`: every ASCII character but letters, digits and
the two angle brackets. -/
def isEscapable (c : Char) : Bool :=
  isMeta c || (c.val < 0x80 && !c.isAlphanum && c != '<' && c != '>')

/-! ## Sets that depend on the modes -/

/-- Closes a set under case folding where case does not count. -/
def Modes.fold (modes : Modes) (codes : CodeSet) : CodeSet :=
  if !modes.caseInsensitive then codes
  else if modes.unicode then codes.foldCase else codes.foldCaseAscii

/-- Folds, then takes the complement if `negated`. With ASCII classes a complement would hold parts
of characters, so it is refused. -/
def Modes.finishSet (modes : Modes) (negated : Bool) (codes : CodeSet) : Option CodeSet :=
  let folded := modes.fold codes
  if !negated then some folded
  else if modes.unicode then some folded.complement else none

/-- The class of a character and all that fold like it. -/
def Modes.charSet (modes : Modes) (c : Char) : CodeSet :=
  if modes.unicode || c.val < 0x80 then modes.fold (.singleton c) else .singleton c

def asciiDigits : CodeSet := .ofRange '0'.toNat '9'.toNat

def asciiSpaces : CodeSet := .ofRanges [(9, 13), (32, 32)]

def asciiWord : CodeSet := .ofRanges [(48, 57), (65, 90), (95, 95), (97, 122)]

/-- The class of `\d`, `\s` or `\w`, or with the letter in upper case its complement. -/
def Modes.letterClass (modes : Modes) (letter : Char) : Option CodeSet :=
  let codes :=
    match letter.toLower with
    | 'd' => if modes.unicode then Unicode.digits else asciiDigits
    | 's' => if modes.unicode then Unicode.spaces else asciiSpaces
    | _ => if modes.unicode then Unicode.wordCharacters else asciiWord
  if !letter.isUpper then some codes
  else if modes.unicode then some codes.complement else none

/-! ## Hexadecimal escapes -/

/-- The value of a hexadecimal digit. -/
def hexDigit? (c : Char) : Option Nat :=
  if c.isDigit then some (c.toNat - '0'.toNat)
  else if 'a' ≤ c && c ≤ 'f' then some (c.toNat - 'a'.toNat + 10)
  else if 'A' ≤ c && c ≤ 'F' then some (c.toNat - 'A'.toNat + 10)
  else none

/-- The character with this code, if it is one. -/
def charOfCode? (code : Nat) : Option Char :=
  if h : code.isValidChar then some (Char.ofNatAux code h) else none

/-- Reads exactly `count` hexadecimal digits onto `value`. -/
def readHexDigits (modes : Modes) : (count : Nat) → (value : Nat) → List Char →
    Option (Nat × List Char)
  | 0, value, text => some (value, text)
  | count + 1, value, text =>
    match modes.skipBlanks text with
    | c :: rest => do
      let digit ← hexDigit? c
      readHexDigits modes count (value * 16 + digit) rest
    | [] => none

/-- Reads hexadecimal digits up to a closing brace. -/
def readHexBraced (modes : Modes) : (steps : Nat) → (digits value : Nat) → List Char →
    Option (Nat × List Char)
  | 0, _, _, _ => none
  | steps + 1, digits, value, text =>
    match modes.skipBlanks text with
    | [] => none
    | c :: rest =>
      if c == '\x7d' then if digits = 0 then none else some (value, rest)
      else do
        let digit ← hexDigit? c
        readHexBraced modes steps (digits + 1) (value * 16 + digit) rest

/-- Reads what follows `\x`, `\u` or `\U`: two, four or eight digits, or any number in braces. A
two-digit escape above ASCII is a byte, which ASCII mode refuses. -/
def readHex (modes : Modes) (letter : Char) (text : List Char) : Option (Char × List Char) :=
  match modes.skipBlanks text with
  | [] => none
  | c :: rest => do
    if c == '\x7b' then
      let (code, rest) ← readHexBraced modes (rest.length + 1) 0 0 rest
      let char ← charOfCode? code
      some (char, rest)
    else
      let count := if letter == 'x' then 2 else if letter == 'u' then 4 else 8
      let (code, rest) ← readHexDigits modes count 0 (c :: rest)
      let char ← charOfCode? code
      if letter == 'x' && !modes.unicode && char.val ≥ 0x80 then none
      else some (char, rest)

/-! ## Property classes -/

/-- Splits at the first place where `mark` occurs. -/
def splitAtMark (mark : List Char) : List Char → Option (List Char × List Char)
  | [] => none
  | c :: rest =>
    if mark.isPrefixOf (c :: rest) then some ([], (c :: rest).drop mark.length)
    else (splitAtMark mark rest).map fun (before, after) => (c :: before, after)

/-- The class of the text between the braces of `\p`, with whether it is negated there. -/
def propertyClass (name : List Char) : Option (CodeSet × Bool) :=
  let byValue (parts : List Char × List Char) : Option CodeSet :=
    Unicode.classByValue (String.ofList parts.1) (String.ofList parts.2)
  match splitAtMark ['!', '='] name with
  | some parts => (byValue parts).map (·, true)
  | none =>
    match (splitAtMark [':'] name).or (splitAtMark ['='] name) with
    | some parts => (byValue parts).map (·, false)
    | none => (Unicode.classNamed (String.ofList name)).map (·, false)

/-- Reads the name of a property up to the closing brace. -/
def readPropertyName (modes : Modes) : (steps : Nat) → List Char → Option (List Char × List Char)
  | 0, _ => none
  | steps + 1, text =>
    match modes.skipBlanks text with
    | [] => none
    | c :: rest =>
      if c == '\x7d' then some ([], rest)
      else (readPropertyName modes steps rest).map fun (name, rest) => (c :: name, rest)

/-- Reads what follows `\p` or, with `negated`, `\P`: one letter or a name in braces. -/
def readProperty (modes : Modes) (negated : Bool) (text : List Char) :
    Option (CodeSet × List Char) :=
  match modes.skipBlanks text with
  | [] => none
  | c :: rest => do
    let (name, rest) ←
      if c == '\x7b' then readPropertyName modes (rest.length + 1) rest
      else if c == '\\' then none
      else some ([c], modes.skipBlanks rest)
    if !modes.unicode then none
    else
      let (codes, inverted) ← propertyClass name
      let codes ← modes.finishSet (negated != inverted) codes
      some (codes, rest)

/-! ## Word tests in braces -/

def wordTestOfName (name : List Char) : Option WordTest :=
  match String.ofList name with
  | "start" => some .start
  | "end" => some .finish
  | "start-half" => some .startHalf
  | "end-half" => some .finishHalf
  | _ => none

def isWordTestLetter (c : Char) : Bool := c.isAlpha || c == '-'

/-- Reads the letters of a word test's name. -/
def readWordTestName (modes : Modes) : (steps : Nat) → List Char → List Char × List Char
  | 0, text => ([], text)
  | steps + 1, text =>
    match text with
    | c :: rest =>
      if isWordTestLetter c then
        let (name, rest) := readWordTestName modes steps (modes.skipBlanks rest)
        (c :: name, rest)
      else ([], text)
    | [] => ([], text)

/-- Reads what may follow `\b`. A brace whose content does not start like a name is left for the
quantifier that it opens. -/
def readWordTest (modes : Modes) (text : List Char) : Option (WordTest × List Char) :=
  match text with
  | '\x7b' :: inner =>
    match modes.skipBlanks inner with
    | [] => none
    | c :: rest =>
      if !isWordTestLetter c then some (.boundary, text)
      else
        match readWordTestName modes (rest.length + 1) (c :: rest) with
        | (name, '\x7d' :: rest) => (wordTestOfName name).map (·, rest)
        | _ => none
  | _ => some (.boundary, text)

/-! ## All escapes -/

/-- Reads what follows a backslash. -/
def readEscape (modes : Modes) (text : List Char) : Option (Atom × List Char) :=
  match text with
  | [] => none
  | c :: rest =>
    let word (test : WordTest) : Atom := .test (.word test modes.unicode)
    match c with
    | 'x' | 'u' | 'U' => (readHex modes c rest).map fun (char, rest) => (.char char, rest)
    | 'p' | 'P' => (readProperty modes (c == 'P') rest).map fun (codes, rest) => (.set codes, rest)
    | 'd' | 'D' | 's' | 'S' | 'w' | 'W' => (modes.letterClass c).map fun codes => (.set codes, rest)
    | 'a' => some (.char '\x07', rest)
    | 'f' => some (.char '\x0c', rest)
    | 't' => some (.char '\t', rest)
    | 'n' => some (.char '\n', rest)
    | 'r' => some (.char '\r', rest)
    | 'v' => some (.char '\x0b', rest)
    | 'A' => some (.test .textStart, rest)
    | 'z' => some (.test .textEnd, rest)
    | 'b' => (readWordTest modes rest).map fun (test, rest) => (word test, rest)
    | 'B' => some (word .noBoundary, rest)
    | '<' => some (word .start, rest)
    | '>' => some (word .finish, rest)
    | _ => if isEscapable c then some (.char c, rest) else none

end DynamicValues.Pattern
