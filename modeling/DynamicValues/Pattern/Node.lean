import DynamicValues.Unicode.CodeSet

/-!
# Pattern trees

A `Node` is a pattern after reading: character sets, assertions, groups, sequence, choice and
repetition. Everything the pattern text can say in several ways (escapes, named classes, case
folding, inline modifiers) is gone by then.

`Node.repeated` is the way to build a repetition. It settles the three cases that the machine
would otherwise have to know about: repeating what can only match the empty text is at most one
try, repeating nothing is the empty pattern, and repeating exactly once is the pattern itself.
-/

set_option autoImplicit false

namespace DynamicValues.Pattern

/-- The two sides of a place in the text that a word test asks about. -/
inductive WordTest where
  /-- A word character on exactly one side. -/
  | boundary
  /-- Word characters on both sides or on neither. -/
  | noBoundary
  /-- A word starts here. -/
  | start
  /-- A word ends here. -/
  | finish
  /-- No word character before. -/
  | startHalf
  /-- No word character after. -/
  | finishHalf
  deriving Repr, DecidableEq

/-- A test of a place in the text that reads nothing. -/
inductive Assertion where
  | textStart
  | textEnd
  /-- After a line feed or at the start; with `crlf`, also after a lone carriage return. -/
  | lineStart (crlf : Bool)
  /-- Before a line feed or at the end; with `crlf`, a carriage return ends a line too. -/
  | lineEnd (crlf : Bool)
  /-- A word test over word characters of every script, or over ASCII ones only. -/
  | word (test : WordTest) (unicode : Bool)
  deriving Repr, DecidableEq

/-- A pattern. -/
inductive Node where
  /-- Matches the empty text. -/
  | empty
  /-- One character of a set; with the empty set, nothing. -/
  | chars (set : CodeSet)
  | assert (test : Assertion)
  /-- A capture group with its number, from 1. -/
  | group (number : Nat) (body : Node)
  /-- `first`, then `second`. -/
  | seq (first second : Node)
  /-- `first`, or failing that `second`. -/
  | choice (first second : Node)
  /-- At least `low` and at most `high` times, as many as possible if `greedy`, else as few. -/
  | loop (body : Node) (low : Nat) (high : Option Nat) (greedy : Bool)
  deriving Repr, Inhabited

namespace Node

/-- Adds two lengths, either of which may be unknown. -/
def addLengths (a b : Option Nat) : Option Nat :=
  match a, b with
  | some m, some n => some (m + n)
  | _, _ => none

/-- The least length of a match in characters; `none` where a part of the pattern never matches. -/
def minLength : Node → Option Nat
  | empty => some 0
  | chars set => if set.isEmpty then none else some 1
  | assert _ => some 0
  | group _ body => body.minLength
  | seq first second => addLengths first.minLength second.minLength
  | choice first second =>
    match first.minLength, second.minLength with
    | some m, some n => some (min m n)
    | _, _ => none
  | loop body low _ _ => body.minLength.map (· * low)

/-- Whether every match is empty. A part that never matches does not count as empty. -/
def matchesOnlyEmpty : Node → Bool
  | empty => true
  | chars _ => false
  | assert _ => true
  | group _ body => body.matchesOnlyEmpty
  | seq first second => first.matchesOnlyEmpty && second.matchesOnlyEmpty
  | choice first second => first.matchesOnlyEmpty && second.matchesOnlyEmpty
  | loop body _ high _ => high.isSome && body.matchesOnlyEmpty

/-- Whether every match has at least one character. -/
def alwaysConsumes (node : Node) : Bool :=
  match node.minLength with
  | some n => n > 0
  | none => false

/-- A repetition in its simplest form. -/
def repeated (body : Node) (low : Nat) (high : Option Nat) (greedy : Bool) : Node :=
  let (low, high) :=
    if body.matchesOnlyEmpty then (min low 1, some (min (high.getD 1) 1)) else (low, high)
  if low = 0 ∧ high = some 0 then empty
  else if low = 1 ∧ high = some 1 then body
  else loop body low high greedy

/-- The sequence of the given patterns. -/
def sequence : List Node → Node
  | [] => empty
  | [node] => node
  | node :: rest => seq node (sequence rest)

/-- The ordered choice among the given patterns. -/
def choices : List Node → Node
  | [] => empty
  | [node] => node
  | node :: rest => choice node (choices rest)

/-- The highest group number that is still in the pattern, 0 if there is no group. -/
def groupCount : Node → Nat
  | empty => 0
  | chars _ => 0
  | assert _ => 0
  | group number body => max number body.groupCount
  | seq first second => max first.groupCount second.groupCount
  | choice first second => max first.groupCount second.groupCount
  | loop body _ _ _ => body.groupCount

/-- An estimate of the memory of the machine for this pattern, in bytes. A repetition with bounds
counts its body once for each time it may run. -/
def machineBytes : Node → Nat
  | empty => 0
  | chars set => 16 + 8 * set.ranges.size
  | assert _ => 16
  | group _ body => 32 + body.machineBytes
  | seq first second => first.machineBytes + second.machineBytes
  | choice first second => 16 + first.machineBytes + second.machineBytes
  | loop body low high _ => 32 + (max (high.getD low) 1) * (16 + body.machineBytes)

end Node

end DynamicValues.Pattern
