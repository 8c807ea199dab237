import DynamicValues.Pattern.Machine
import DynamicValues.Pattern.Source

/-!
# An engine

One engine that patterns can be compiled with: it reads the written form of a pattern, writes a
program for it and lets all paths through the program advance in lockstep. The same program finds
the first match and the longest one. Engines differ in what they refuse: this one does not know the
ages of characters, and the memory of a program is an estimate.

What is shown of matches does not depend on such differences. It holds of the programs of any engine
that finds what it documents, and this one does.
-/

set_option autoImplicit false

namespace DynamicValues

/-- The searcher of a program. -/
def Searcher.ofProgram (program : Pattern.Program) : Searcher where
  capturesAt := program.search
  longestAt? := some program.longest

/-- The pattern that a tree is compiled to. -/
def CompiledPattern.ofNode (source : String) (modifiers : Modifiers) (node : Pattern.Node) :
    CompiledPattern where
  source := source
  modifiers := modifiers
  entries := node.program.groups
  searcher := .ofProgram node.program

/-- The engine that runs all paths through a program in lockstep. -/
def Engine.lockstep : Engine where
  leftmost sizeLimit source modifiers :=
    match Pattern.Node.ofSource? source modifiers with
    | none => .error .malformed
    | some node =>
      if node.machineBytes ≤ sizeLimit then .ok (node.program.groups, node.program.search)
      else .error .tooLarge
  longest _ source modifiers :=
    (Pattern.Node.ofSource? source modifiers).map fun node => node.program.longest

end DynamicValues
