import DynamicValues.Number.General
import DynamicValues.Number.Prefix
import DynamicValues.Number.Shortest
import DynamicValues.Text.Quoted
import DynamicValues.World.Identity

/-!
# Coercion

Every value has a text, a number, a truth value and a length. Coercing never fails and never changes
the value; where there is nothing to go by it takes a default and says so in a warning.

An array or hash counts as its number of elements, and what is neither scalar nor container counts
by its identity: the address of its body.
-/

set_option autoImplicit false

namespace DynamicValues

/-- A coerced value with the warnings that getting it gave rise to. -/
structure Coerced (α : Type) where
  value : α
  warnings : List Warning := []
  deriving Repr

namespace Coerced

variable {α β : Type}

def map (f : α → β) (c : Coerced α) : Coerced β := { value := f c.value, warnings := c.warnings }

/-- Takes the value and reports the warnings. -/
def report (coerce : World → Coerced α) : Action α := fun world =>
  let c := coerce world
  .ok c.value (world.warnAll c.warnings)

end Coerced

/-- A count as a whole number of 64 bits. -/
def countInt (n : Nat) : Int64 := Float64.clampInt64 n

namespace Addresses

/-- The text of the address of a body. -/
def text (addresses : Addresses) (v : Value) : String :=
  String.ofList ('0' :: 'x' :: hexDigits (addresses.address v))

/-- The address of a body as a number, limited to 64 bits. -/
def number (addresses : Addresses) (v : Value) : Number := .int (countInt (addresses.address v))

end Addresses

/-- The decimal text of a whole number. -/
def intText (n : Int64) : String := n.toInt.repr

namespace Datum

/-- The truth of a datum: false for undef, the empty text and zero. -/
def toBool : Datum → Bool
  | undef => false
  | int n => n != 0
  | float x => !x.isZero
  | text s => !s.isEmpty && !(NumericPrefix.ofText s).number.isZero
  | ref _ => true

end Datum

namespace World

/-- The text of a reference, `Class=KIND(0xADDRESS)`. A pattern without a class shows its own
text. -/
def referenceText (world : World) (target : Value) : String :=
  let body := world.heap.body target
  let plain := world.heap.referentName target ++ "(" ++ world.addresses.text target ++ ")"
  match body.blessing, body.content with
  | none, .regex pattern => pattern.toText
  | some id, _ => world.classes.name id ++ "=" ++ plain
  | none, _ => plain

/-- The text of a datum. -/
def datumText (world : World) : Datum → Coerced String
  | .undef => ⟨"", [.uninitialized .string]⟩
  | .int n => ⟨intText n, []⟩
  | .float x => ⟨x.toGeneral, []⟩
  | .text s => ⟨s, []⟩
  | .ref target => ⟨world.referenceText target, []⟩

/-- The text of a value. -/
def text (v : Value) (world : World) : Coerced String :=
  match world.heap.content v with
  | .scalar datum _ => world.datumText datum
  | .array items => ⟨toString items.size, []⟩
  | .hash entries => ⟨toString entries.size, []⟩
  | .glob package name _ => ⟨"*" ++ package ++ "::" ++ name, []⟩
  | .regex pattern => ⟨pattern.toText, []⟩
  | .code _ _ => ⟨world.referenceText v, []⟩
  | .handle _ => ⟨world.referenceText v, []⟩

/-- The length of the text in characters. An undefined scalar has length 0 without a warning. -/
def textLength (v : Value) (world : World) : Coerced Nat :=
  match world.heap.content v with
  | .scalar .undef _ => ⟨0, []⟩
  | _ => (world.text v).map String.length

/-- What a datum is worth as a number. -/
def datumNumber (world : World) : Datum → Coerced Number
  | .undef => ⟨.int 0, [.uninitialized .numeric]⟩
  | .int n => ⟨.int n, []⟩
  | .float x => ⟨.float x, []⟩
  | .text s =>
    let p := NumericPrefix.ofText s
    ⟨p.number, if p.isLossy then [.nonNumeric s] else []⟩
  | .ref target => ⟨world.addresses.number target, []⟩

/-- What a value is worth as a number. -/
def number (v : Value) (world : World) : Coerced Number :=
  match world.heap.content v with
  | .scalar datum _ => world.datumNumber datum
  | .array items => ⟨.int (countInt items.size), []⟩
  | .hash entries => ⟨.int (countInt entries.size), []⟩
  | _ => ⟨world.addresses.number v, []⟩

/-- What a value is worth as a whole number. -/
def integer (v : Value) (world : World) : Coerced Int64 := (world.number v).map Number.toInt64

/-- What a value is worth as a floating point number. -/
def float (v : Value) (world : World) : Coerced Float64 := (world.number v).map Number.toFloat

end World

namespace Heap

/-- The truth of a value. A container is true if it has elements. -/
def truth (heap : Heap) (v : Value) : Bool :=
  match heap.content v with
  | .scalar datum _ => datum.toBool
  | .array items => !items.isEmpty
  | .hash entries => !entries.isEmpty
  | _ => true

/-- The content that a value has where one scalar is wanted: the datum of a scalar, the number of
elements of a container, and a reference to anything else. -/
def scalarContent (heap : Heap) (v : Value) : Datum :=
  match heap.content v with
  | .scalar datum _ => datum
  | .array items => .int (countInt items.size)
  | .hash entries => .int (countInt entries.size)
  | _ => .ref v

/-- A fresh scalar with that content. -/
def asScalar (heap : Heap) (v : Value) : Value × Heap := heap.newScalar (heap.scalarContent v)

/-! ## Match positions -/

/-- The marker of a scalar without a match position. -/
def positionUnset : Int64 := -1

/-- The match position as a whole number of 64 bits, with whether there is one. -/
def positionMarker (heap : Heap) (v : Value) : Int64 × Bool :=
  match heap.position? v with
  | some position => (countInt position, true)
  | none => (positionUnset, false)

/-! ## Equality of contents -/

/-- Whether two values hold equal data. Any two values that are no scalars do. -/
def sameDatum (heap : Heap) (v w : Value) : Bool :=
  match heap.datum? v, heap.datum? w with
  | some a, some b => a.equals b
  | none, none => true
  | _, _ => false

end Heap

/-! ## Inspection -/

namespace World

/-- Kind and identity of a body. -/
def inspectIdentity (world : World) (v : Value) : String :=
  (world.heap.kind v).name ++ "@" ++ world.addresses.text v

/-- A datum for inspection. A reference shows what it points at by identity. -/
def inspectDatum (world : World) : Datum → String
  | .undef => "Undef"
  | .int n => "Int(" ++ intText n ++ ")"
  | .float x => "Float(" ++ x.toShortest ++ ")"
  | .text s => "Str(" ++ quote s ++ ")"
  | .ref target => "Ref(" ++ world.inspectIdentity target ++ ")"

/-- A value for inspection. -/
def inspect (world : World) (v : Value) : String :=
  match world.heap.datum? v with
  | some datum => "Scalar(" ++ world.inspectDatum datum ++ ")"
  | none => world.inspectIdentity v

end World

end DynamicValues
