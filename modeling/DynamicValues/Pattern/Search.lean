import DynamicValues.Pattern.Compiled
import DynamicValues.Text.Subject

/-!
# Searching a subject

A `Searcher` tells two things about a text, in bytes: the first match from a place on, and the
longest match at a place if it is not empty. Everything above it counts in characters.

`Searcher.find` puts the two together. Where an empty match at the starting place is not wanted, it
takes a match there that is not empty if there is one, and otherwise searches one character further.
-/

set_option autoImplicit false

namespace DynamicValues

/-- A range of characters, the end not included. -/
structure Span where
  start : Nat
  stop : Nat
  deriving Repr, DecidableEq, Inhabited

namespace Span

def length (span : Span) : Nat := span.stop - span.start

def isEmpty (span : Span) : Bool := span.start == span.stop

end Span

/-- The spans of a match: the whole match, then each group, `none` for a group that took no part. -/
abbrev Captures := List (Option Span)

/-- The span of a group, if it took part. -/
def Captures.span? (captures : Captures) (group : Nat) : Option Span := (captures[group]?).join

namespace Subject

/-- Byte spans as character spans. -/
def spans (s : Subject) (groups : Pattern.ByteGroups) : Captures :=
  groups.map fun group => group.map fun (start, stop) => ⟨s.charIndex start, s.charIndex stop⟩

end Subject

/-- The first match from character `start` on; with `allowEmpty` false, none that is empty at
`start`. Past the end of the subject there is no match. -/
def Searcher.find (searcher : Searcher) (subject : Subject) (start : Nat) (allowEmpty : Bool) :
    Option Captures := do
  let place ← subject.byteAt? start
  let found ← searcher.capturesAt subject.text place
  let (first, last) ← found.head?.join
  if !allowEmpty && first == last && first == place then
    match searcher.nonemptyAt subject.text place with
    | some groups => some (subject.spans groups)
    | none =>
      let c ← charAt? subject.text place
      let found ← searcher.capturesAt subject.text (place + c.utf8Size)
      some (subject.spans found)
  else some (subject.spans found)

end DynamicValues
