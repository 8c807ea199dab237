import DynamicValues.World.Identity
import DynamicValues.World.Reference

/-!
# Calling subroutines

A subroutine with a native body runs it on its arguments; one that is only declared cannot be
called. A method call finds the method through the class of its invocant and passes the invocant
first.

What native bodies do is up to the program that defined them, so it is a parameter here. They may do
anything to the world, and they may fail.
-/

set_option autoImplicit false

namespace DynamicValues

/-- What the functions behind native bodies do with their arguments. -/
abbrev NativeCode : Type := Native → List Value → Action Value

namespace Action

/-- Calls a subroutine. -/
def callCode (natives : NativeCode) (code : Value) (args : List Value) : Action Value :=
  fun world =>
    match world.heap.content code with
    | .code _ (some native) => natives native args world
    | .code name none => .error (.undefinedSubroutine name) world
    | content => .error (.kindMismatch .code content.kind) world

/-- Calls a subroutine or what a value refers to as one. -/
def call (natives : NativeCode) (v : Value) (args : List Value) : Action Value := do
  if (← get).heap.kind v = .code then callCode natives v args
  else callCode natives (← ask (·.heap.derefCode v)) args

/-- Calls a method; `none` if there is no such method. -/
def callMethod (natives : NativeCode) (v : Value) (name : String) (args : List Value) :
    Action (Option Value) := do
  match (← get).findMethod v name with
  | some code => return some (← callCode natives code (v :: args))
  | none => return none

end Action

end DynamicValues
