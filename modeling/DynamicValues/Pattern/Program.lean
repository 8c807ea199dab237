import DynamicValues.Pattern.Node

/-!
# Programs

A pattern becomes a program: numbered instructions, each of which names the ones that may follow.
`Node.emit` writes a tree in front of code that is already there and answers where the tree's code
begins, so instructions are written last to first and only a loop has to come back to fill in a
branch.

A loop over a body that can match nothing is written so that the body is tried before the test
whether to go round again. Written the other way, the order in which paths are preferred would be
lost when the body matches nothing.
-/

set_option autoImplicit false

namespace DynamicValues.Pattern

/-- One step of a program. -/
inductive Instruction where
  /-- Reads one character of the set. -/
  | read (set : CodeSet) (next : Nat)
  /-- Goes on at `first` or, less preferred, at `second`. -/
  | branch (first second : Nat)
  /-- Notes the place in a slot. -/
  | note (slot next : Nat)
  | assert (test : Assertion) (next : Nat)
  | accept
  deriving Inhabited

abbrev Code := Array Instruction

/-- A branch that prefers the body of a loop if `greedy`, else the way out. -/
def loopBranch (greedy : Bool) (body out : Nat) : Instruction :=
  if greedy then .branch body out else .branch out body

/-- Code in front of the instruction `next`: the longer code and where it begins. -/
abbrev Emitter := Nat → Code → Nat × Code

/-- `count` copies, one after the other. -/
def emitTimes (emit : Emitter) : (count : Nat) → Emitter
  | 0, next, code => (next, code)
  | count + 1, next, code =>
    let (start, code) := emit next code
    emitTimes emit count start code

/-- Up to `count` copies, with a way out to `out` before each. -/
def emitOptional (emit : Emitter) (greedy : Bool) (out : Nat) : (count : Nat) → Emitter
  | 0, next, code => (next, code)
  | count + 1, next, code =>
    let (start, code) := emit next code
    emitOptional emit greedy out count code.size (code.push (loopBranch greedy start out))

/-- The body, then a branch that goes round again or on to `next`. Answers where the branch and
where the body begins. -/
def emitRound (emit : Emitter) (greedy : Bool) (next : Nat) (code : Code) : Nat × Nat × Code :=
  let branch := code.size
  let (start, code) := emit branch (code.push .accept)
  (branch, start, code.setIfInBounds branch (loopBranch greedy start next))

/-- Writes the code of a pattern in front of `next`. -/
def Node.emit : Node → Emitter
  | .empty, next, code => (next, code)
  | .chars set, next, code => (code.size, code.push (.read set next))
  | .assert test, next, code => (code.size, code.push (.assert test next))
  | .group number body, next, code =>
    let (start, code) := body.emit code.size (code.push (.note (2 * number + 1) next))
    (code.size, code.push (.note (2 * number) start))
  | .seq first second, next, code =>
    let (start, code) := second.emit next code
    first.emit start code
  | .choice first second, next, code =>
    let (right, code) := second.emit next code
    let (left, code) := first.emit next code
    (code.size, code.push (.branch left right))
  | .loop body 0 none greedy, next, code =>
    let (branch, start, code) := emitRound body.emit greedy next code
    if body.alwaysConsumes then (branch, code)
    else (code.size, code.push (loopBranch greedy start next))
  | .loop body (low + 1) none greedy, next, code =>
    let (_, start, code) := emitRound body.emit greedy next code
    emitTimes body.emit low start code
  | .loop body low (some high) greedy, next, code =>
    let (start, code) := emitOptional body.emit greedy next (high - low) next code
    emitTimes body.emit low start code

/-- A program with its first instruction and the number of groups it notes, the whole match
included. -/
structure Program where
  code : Code
  start : Nat
  groups : Nat

/-- The program of a pattern, which notes the whole match as group 0. -/
def Node.program (node : Node) : Program :=
  let (start, code) := node.emit 1 #[.accept, .note 1 0]
  { code := code.push (.note 0 start)
    start := code.size
    groups := node.groupCount + 1 }

end DynamicValues.Pattern
