import DynamicValues.Kind

/-!
# Errors

An operation on values fails only when it is used against its contract. Soft conditions, such as a
text that is not a number, are warnings instead, and negative outcomes, such as a method that does
not exist, are ordinary answers.
-/

set_option autoImplicit false

namespace DynamicValues

/-- Why an operation failed. -/
inductive ValueError where
  /-- A defined value that is no reference was used as one. -/
  | notAReference (wanted : Kind)
  /-- An undefined value was used as a reference. -/
  | undefinedReference (wanted : Kind)
  /-- A value has another kind than was asked for. -/
  | kindMismatch (wanted found : Kind)
  /-- Only references and containers can have a class. -/
  | cannotBless
  /-- A list was assigned to a kind that holds no list. -/
  | cannotAssignList (found : Kind)
  /-- A subroutine without a body was called. -/
  | undefinedSubroutine (name : String)
  /-- A class would have become its own ancestor. -/
  | recursiveInheritance (className : String)
  /-- A class number that the symbol table never gave out. -/
  | unknownStash (id : UInt32)
  /-- A new class was wanted and all class numbers are given out. -/
  | stashIdsExhausted
  /-- A native subroutine failed. -/
  | native (text : String)
  deriving Repr, DecidableEq

namespace ValueError

/-- The text of an error. -/
def message : ValueError → String
  | notAReference wanted => "Can't use a non-reference value as " ++ wanted.withArticle ++ " ref"
  | undefinedReference wanted =>
    "Can't use an undefined value as " ++ wanted.withArticle ++ " reference"
  | kindMismatch wanted found =>
    "Not " ++ wanted.withArticle ++ " reference (found " ++ found.name ++ ")"
  | cannotBless => "Can't bless non-reference value"
  | cannotAssignList found => "Can't assign a list to " ++ found.withArticle
  | undefinedSubroutine name => "Undefined subroutine &" ++ name ++ " called"
  | recursiveInheritance className =>
    "Recursive inheritance detected in package '" ++ className ++ "'"
  | unknownStash id => "No stash with id " ++ toString id ++ " in this symbol table"
  | stashIdsExhausted => "Too many packages: no stash ids left"
  | native text => text

/-- Whether the error is about the kind of a value. -/
def isKindMismatch : ValueError → Bool
  | notAReference _ => true
  | undefinedReference _ => true
  | kindMismatch _ _ => true
  | cannotBless => true
  | cannotAssignList _ => true
  | _ => false

end ValueError

end DynamicValues
