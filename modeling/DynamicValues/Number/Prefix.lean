import DynamicValues.Number.Basic
import DynamicValues.Number.Numeral

/-!
# Reading a text as a number

Reading takes the longest numeral that a text starts with, after blanks. It looks at the bytes of the
text and cuts pieces out of it by byte offsets; a cut that would fall outside the text or inside a
character would be an error (`slice?`). `NumericPrefix.scan?` is that reading, `NumericPrefix.ofText`
what it answers.
-/

set_option autoImplicit false

namespace DynamicValues

/-- ASCII blanks: space, tab, line feed, form feed and carriage return. -/
def isBlank (c : Char) : Bool :=
  c == ' ' || c == '\t' || c == '\n' || c == '\x0c' || c == '\r'

/-- The bytes of a text from `start` up to `stop`, which must be offsets between characters. -/
def slice? (text : String) (start stop : Nat) : Option String :=
  if start ≤ stop && String.Pos.Raw.isValid text ⟨start⟩ && String.Pos.Raw.isValid text ⟨stop⟩ then
    some (String.Pos.Raw.extract text ⟨start⟩ ⟨stop⟩)
  else none

/-- What a text is worth as a number. -/
structure NumericPrefix where
  /-- The value of the numeral, 0 if there is none. -/
  number : Number
  /-- The text starts with a numeral, after blanks. -/
  found : Bool
  /-- Only blanks follow the numeral. -/
  complete : Bool
  deriving Repr, BEq

namespace NumericPrefix

/-- Whether something of the text is lost in reading it as a number. -/
def isLossy (p : NumericPrefix) : Bool := !(p.found && p.complete)

/-- What a text without a numeral is worth. -/
def missing : NumericPrefix := ⟨.int 0, false, false⟩

def isDigitByte (byte : UInt8) : Bool := '0'.toUInt8 ≤ byte && byte ≤ '9'.toUInt8

/-- How many digits there are from an offset on. -/
def countDigits (bytes : List UInt8) (start : Nat) : Nat :=
  ((bytes.drop start).takeWhile isDigitByte).length

/-- One byte for a sign at an offset, none if there is no sign. -/
def signLength (bytes : List UInt8) (start : Nat) : Nat :=
  if bytes[start]? = some '+'.toUInt8 ∨ bytes[start]? = some '-'.toUInt8 then 1 else 0

/-- The number that a word stands for, and its length. Eight bytes are enough to tell the words, and
where they would end inside a character the whole text is looked at. -/
def word? (text : String) : Option (Float64 × Nat) :=
  let head := (slice? text 0 (min text.utf8ByteSize 8)).getD text
  let lower := head.toList.map Char.toLower
  if "infinity".toList.isPrefixOf lower then some (.infinity false, 8)
  else if "inf".toList.isPrefixOf lower then some (.infinity false, 3)
  else if "nan".toList.isPrefixOf lower then some (.nan, 3)
  else none

/-- Where the digits of a numeral end that begin at an offset, and whether there is a point. -/
def mantissaEnd? (bytes : List UInt8) (start : Nat) : Option (Nat × Bool) :=
  let digits := countDigits bytes start
  let stop := start + digits
  if bytes[stop]? = some '.'.toUInt8 then
    let fraction := countDigits bytes (stop + 1)
    if digits > 0 ∨ fraction > 0 then some (stop + 1 + fraction, true) else none
  else if digits > 0 then some (stop, false)
  else none

/-- Where an exponent ends that begins at an offset. -/
def exponentEnd? (bytes : List UInt8) (start : Nat) : Option Nat :=
  if bytes[start]? = some 'e'.toUInt8 ∨ bytes[start]? = some 'E'.toUInt8 then
    let cursor := start + 1 + signLength bytes (start + 1)
    let digits := countDigits bytes cursor
    if digits > 0 then some (cursor + digits) else none
  else none

/-- The number that a numeral of digits is worth. What does not fit a whole number is read as a
floating point number. -/
def worth (numeral : String) (isFloat : Bool) : Number :=
  let float := Number.float ((Float64.ofText? numeral).getD (.zero false))
  if isFloat then float else (int64OfText? numeral).elim float .int

/-- Reads a text as a number; nothing only if a cut fails. -/
def scan? (text : String) : Option NumericPrefix := do
  let trimmed := String.ofList (text.toList.dropWhile isBlank)
  let bytes := trimmed.toUTF8.data.toList
  let start := signLength bytes 0
  let rest ← slice? trimmed start trimmed.utf8ByteSize
  match word? rest with
  | some (value, length) =>
    let behind ← slice? trimmed (start + length) trimmed.utf8ByteSize
    let value := if bytes[0]? = some '-'.toUInt8 then value.negate else value
    some ⟨.float value, true, behind.toList.all isBlank⟩
  | none =>
    match mantissaEnd? bytes start with
    | none => some missing
    | some (stop, pointed) =>
      let exponent := exponentEnd? bytes stop
      let stop := exponent.getD stop
      let numeral ← slice? trimmed 0 stop
      let behind ← slice? trimmed stop trimmed.utf8ByteSize
      some ⟨worth numeral (pointed || exponent.isSome), true, behind.toList.all isBlank⟩

/-- Reads a text as a number. -/
def ofText (text : String) : NumericPrefix := (scan? text).getD missing

end NumericPrefix

end DynamicValues
