import DynamicValues.Unicode.Lookup

/-!
# Quoted text

Text between double quotes for inspection. A quote, a backslash and the common control characters
get a backslash; characters without a visible form of their own are given by their code.
-/

set_option autoImplicit false

namespace DynamicValues

/-- The digits of a number in lower-case hexadecimal. -/
def hexDigits (n : Nat) : List Char := Nat.toDigits 16 n

/-- Whether a character is written by its code: it is invisible or combines with the one before
it. -/
def needsCode (c : Char) : Bool :=
  if c.val < 0x7F then c.val < 0x20
  else Unicode.graphemeExtend.contains c || Unicode.unprintable.contains c

/-- A character as it stands in quoted text. -/
def quoteChar (c : Char) : List Char :=
  match c with
  | '\x00' => ['\\', '0']
  | '\t' => ['\\', 't']
  | '\n' => ['\\', 'n']
  | '\r' => ['\\', 'r']
  | '"' => ['\\', '"']
  | '\\' => ['\\', '\\']
  | c =>
    if needsCode c then '\\' :: 'u' :: '\x7b' :: (hexDigits c.toNat ++ ['\x7d']) else [c]

/-- A text between quotes. -/
def quote (text : String) : String :=
  String.ofList ('"' :: (text.toList.flatMap quoteChar ++ ['"']))

end DynamicValues
