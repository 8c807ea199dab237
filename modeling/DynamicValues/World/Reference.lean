import DynamicValues.World.Basic

/-!
# Dereferencing and autovivification

Dereferencing answers the body that a reference points at and checks its kind; it makes nothing.
A file handle may also be reached through a glob that holds it.

Vivifying is dereferencing in order to write: an undefined scalar comes to refer to a fresh empty
container. A glob vivifies its own slot.
-/

set_option autoImplicit false

namespace DynamicValues

namespace Heap

/-- The body that a value refers to; `wanted` only serves the error. -/
def target (heap : Heap) (v : Value) (wanted : Kind) : Except ValueError Value :=
  match heap.datum? v with
  | some (.ref target) => .ok target
  | some .undef => .error (.undefinedReference wanted)
  | _ => .error (.notAReference wanted)

/-- Answers a body if it is of the wanted kind. -/
def expectKind (heap : Heap) (wanted : Kind) (found : Value) : Except ValueError Value :=
  if heap.kind found = wanted then .ok found
  else .error (.kindMismatch wanted (heap.kind found))

/-- The file handle that a value refers to, directly or through a glob. -/
def derefHandle (heap : Heap) (v : Value) : Except ValueError Value := do
  let found ← heap.target v .handle
  match heap.slots? found with
  | some slots =>
    match slots.handle with
    | some handle => .ok handle
    | none => .error (.kindMismatch .handle .glob)
  | none => heap.expectKind .handle found

/-- The body of the given kind that a value refers to. -/
def dereference (heap : Heap) (v : Value) (wanted : Kind) : Except ValueError Value :=
  if wanted = .handle then heap.derefHandle v
  else heap.target v wanted >>= heap.expectKind wanted

/-- The scalar that a value refers to. -/
def derefScalar (heap : Heap) (v : Value) : Except ValueError Value := do
  heap.expectKind .scalar (← heap.target v .scalar)

/-- The array that a value refers to. -/
def derefArray (heap : Heap) (v : Value) : Except ValueError Value := do
  heap.expectKind .array (← heap.target v .array)

/-- The hash that a value refers to. -/
def derefHash (heap : Heap) (v : Value) : Except ValueError Value := do
  heap.expectKind .hash (← heap.target v .hash)

/-- The subroutine that a value refers to. -/
def derefCode (heap : Heap) (v : Value) : Except ValueError Value := do
  heap.expectKind .code (← heap.target v .code)

/-- The glob that a value refers to. -/
def derefGlob (heap : Heap) (v : Value) : Except ValueError Value := do
  heap.expectKind .glob (← heap.target v .glob)

/-- The pattern that a value refers to. -/
def derefRegex (heap : Heap) (v : Value) : Except ValueError Value := do
  heap.expectKind .regex (← heap.target v .regex)

/-- Dereferences through the operation for one kind. -/
def derefTyped (heap : Heap) (v : Value) : Kind → Except ValueError Value
  | .scalar => heap.derefScalar v
  | .array => heap.derefArray v
  | .hash => heap.derefHash v
  | .code => heap.derefCode v
  | .glob => heap.derefGlob v
  | .handle => heap.derefHandle v
  | .regex => heap.derefRegex v

/-- Points an undefined scalar at a fresh container. -/
def vivifyUndef (heap : Heap) (v : Value) (kind : ContainerKind) : Option (Value × Heap) :=
  match heap.datum? v with
  | some .undef =>
    let (container, heap) := heap.allocContent kind.emptyContent
    some (container, heap.assign v (.ref container))
  | _ => none

end Heap

namespace Action

/-- The container that a value refers to, made where the value is undefined. -/
def vivify (v : Value) (kind : ContainerKind) : Action Value := fun world =>
  match world.heap.vivifyUndef v kind with
  | some (container, heap) => .ok container { world with heap }
  | none =>
    match world.heap.globVivify v kind with
    | (some container, heap) => .ok container { world with heap }
    | (none, _) => ask (fun world => world.heap.derefTyped v kind.kind) world

/-- Stores a datum in a scalar. -/
def set (v : Value) (datum : Datum) : Action Unit := fun world =>
  match world.heap.datum? v with
  | some _ => .ok () { world with heap := world.heap.assign v datum }
  | none => .error (.kindMismatch .scalar (world.heap.kind v)) world

end Action

end DynamicValues
