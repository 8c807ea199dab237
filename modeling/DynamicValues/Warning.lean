/-!
# Warnings

A warning reports a condition that an operation gets over by taking a default. Warnings are values;
where they go is the business of the sink.
-/

set_option autoImplicit false

namespace DynamicValues

/-- What an undefined value was used as. -/
inductive Usage where
  | string
  | numeric
  deriving Repr, DecidableEq

/-- A condition worth telling. -/
inductive Warning where
  /-- An undefined value was used as a string or a number. -/
  | uninitialized (usage : Usage)
  /-- A text that is not a whole numeral was used as a number. -/
  | nonNumeric (text : String)
  /-- A list with an odd number of elements was assigned to a hash. -/
  | oddHashAssignment
  deriving Repr, DecidableEq

/-- The text of a warning. -/
def Warning.message : Warning → String
  | .uninitialized .string => "Use of uninitialized value in string"
  | .uninitialized .numeric => "Use of uninitialized value in numeric"
  | .nonNumeric text => "Argument \"" ++ text ++ "\" isn't numeric"
  | .oddHashAssignment => "Odd number of elements in hash assignment"

/-- Where warnings go. -/
inductive WarningSink where
  /-- To the standard error stream, which the outer layer writes. -/
  | stderr
  /-- Into a list that can be read back. -/
  | capture
  | silent
  deriving Repr, DecidableEq, Inhabited

/-- A sink with what it has received, oldest first. -/
structure WarningLog where
  sink : WarningSink := .stderr
  received : Array Warning := #[]
  deriving Inhabited

namespace WarningLog

/-- Hands a warning to the sink. A silent sink forgets it at once. -/
def report (log : WarningLog) (warning : Warning) : WarningLog :=
  match log.sink with
  | .silent => log
  | _ => { log with received := log.received.push warning }

/-- The warnings that can be read back. -/
def captured (log : WarningLog) : Array Warning :=
  match log.sink with
  | .capture => log.received
  | _ => #[]

end WarningLog

end DynamicValues
