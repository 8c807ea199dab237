import DynamicValues.World.Coercion

/-!
# List assignment and undefining

A list assignment reads the whole list before it writes anything, so the receiver may stand in the
list itself. A scalar keeps the last element, an array is filled with fresh cells, and a hash takes
the elements in pairs of key and value, the last one paired with undef if their number is odd.
-/

set_option autoImplicit false

namespace DynamicValues

/-- Data in pairs of key and value. -/
def inPairs : List Datum → List (Datum × Datum)
  | [] => []
  | [key] => [(key, .undef)]
  | key :: value :: rest => (key, value) :: inPairs rest

namespace World

/-- The pairs of a hash assignment with their keys as texts, and the warnings of that. -/
def keyedPairs (data : List Datum) (world : World) : Coerced (List (String × Datum)) :=
  let pairs := (inPairs data).map fun (key, value) => (world.datumText key, value)
  { value := pairs.map fun (key, value) => (key.value, value)
    warnings := (if data.length % 2 = 1 then [.oddHashAssignment] else [])
      ++ pairs.flatMap fun (key, _) => key.warnings }

end World

namespace Heap

/-- Refills an array with fresh cells. -/
def assignArray (heap : Heap) (array : Value) (data : List Datum) : Heap :=
  let (cells, heap) := heap.newCells data
  heap.setItems array cells.toArray

/-- Refills a hash with fresh cells; of equal keys the last one counts. -/
def assignHash (heap : Heap) (hash : Value) (pairs : List (String × Datum)) : Heap :=
  let (entries, heap) := heap.newEntries .empty pairs
  heap.setEntries hash entries

/-- Resets a value to undef. A scalar is cleared in place; for any other value a fresh undefined
scalar is answered, and its body stays as it is. -/
def undefine (heap : Heap) (v : Value) : Value × Heap :=
  match heap.datum? v with
  | some _ => (v, heap.assign v .undef)
  | none => heap.newScalar .undef

end Heap

namespace Action

/-- Assigns a list and answers how many elements it had. -/
def assign (v : Value) (items : List Value) : Action Nat := fun world =>
  let data := items.map world.heap.scalarContent
  match world.heap.kind v with
  | .scalar =>
    .ok data.length { world with heap := world.heap.assign v (data.getLast?.getD .undef) }
  | .array => .ok data.length { world with heap := world.heap.assignArray v data }
  | .hash =>
    let pairs := world.keyedPairs data
    let world := world.warnAll pairs.warnings
    .ok data.length { world with heap := world.heap.assignHash v pairs.value }
  | kind => .error (.cannotAssignList kind) world

end Action

end DynamicValues
