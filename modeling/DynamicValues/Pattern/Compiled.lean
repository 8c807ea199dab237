import DynamicValues.Pattern.Modifiers

/-!
# Compiled patterns

Pattern text is compiled by an `Engine`, which is no part of this library: two programs come out of
it, one that finds the first match from a place of a text on and one that finds the longest match at
a place. All that is asked of them afterwards is collected in a `Searcher`. The second program may
be missing where the first one is there, since the engine may refuse to build it.

A compiled pattern keeps its text and modifiers beside its programs and holds no progress of any
match. Compiling fails for malformed text and for a pattern whose program would be too large.
-/

set_option autoImplicit false

namespace DynamicValues

namespace Pattern

/-- The byte spans of the groups of a match, the whole match first. -/
abbrev ByteGroups := List (Option (Nat × Nat))

/-- What a program finds in a text from a place on, places in bytes. -/
abbrev Finder := String → Nat → Option ByteGroups

end Pattern

/-! ## Searchers -/

/-- The programs of a pattern. Places and spans are in bytes. -/
structure Searcher where
  /-- The first match that starts at or after a place. -/
  capturesAt : Pattern.Finder
  /-- The longest match that starts at a place, if there is a program for it. -/
  longestAt? : Option Pattern.Finder

/-- The longest match that starts at a place, if it is not empty. -/
def Searcher.nonemptyAt (searcher : Searcher) (text : String) (place : Nat) :
    Option Pattern.ByteGroups := do
  let longestAt ← searcher.longestAt?
  let groups ← longestAt text place
  let (start, stop) ← groups.head?.join
  if start < stop then some groups else none

/-! ## Compiling -/

/-- Why a pattern was not compiled. -/
inductive PatternError where
  | malformed
  | tooLarge
  deriving Repr, DecidableEq

/-- The programs that pattern text is compiled to, within a limit for the memory of each, in
bytes. -/
structure Engine where
  /-- The program for the first match, with the number of entries in what it finds. -/
  leftmost (sizeLimit : Nat) (source : String) (modifiers : Modifiers) :
    Except PatternError (Nat × Pattern.Finder)
  /-- The program for the longest match. -/
  longest (sizeLimit : Nat) (source : String) (modifiers : Modifiers) : Option Pattern.Finder

/-- A pattern with its programs. -/
structure CompiledPattern where
  source : String
  modifiers : Modifiers
  /-- The number of entries in what is found, that of the whole match included. -/
  entries : Nat
  searcher : Searcher

namespace CompiledPattern

/-- Compiles pattern text within a limit for the memory of its programs. -/
def compile (engine : Engine) (sizeLimit : Nat) (source : String) (modifiers : Modifiers) :
    Except PatternError CompiledPattern :=
  match engine.leftmost sizeLimit source modifiers with
  | .error e => .error e
  | .ok (entries, capturesAt) =>
    let longestAt? := engine.longest sizeLimit source modifiers
    .ok { source, modifiers, entries, searcher := { capturesAt, longestAt? } }

/-- The number of capture groups, the whole match not counted. -/
def groupCount (pattern : CompiledPattern) : Nat := pattern.entries - 1

/-- The text form, `(?^flags:source)`. -/
def toText (pattern : CompiledPattern) : String :=
  "(?^" ++ pattern.modifiers.letters ++ ":" ++ pattern.source ++ ")"

end CompiledPattern

end DynamicValues
