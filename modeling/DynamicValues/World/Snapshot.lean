import DynamicValues.Error
import DynamicValues.Heap.Containers

/-!
# Localization

Localizing a value saves what it holds in a snapshot and empties it; restoring writes the saved
content back into the same body, so every alias sees it. Scalars, arrays, hashes and globs are
emptied and get their content back. Subroutines, handles and patterns keep their content, and the
snapshot holds the whole body. A single element of a hash can be localized too: its cell is set
aside for a fresh one, and put back in the end.
-/

set_option autoImplicit false

namespace DynamicValues

/-- What was saved of a localized place. -/
inductive Snapshot where
  | scalar (v : Value) (datum : Datum) (position : Option Nat)
  | array (v : Value) (items : Array Value)
  | hash (v : Value) (entries : Table Value)
  | glob (v : Value) (slots : GlobSlots)
  /-- A body that was not emptied. -/
  | whole (v : Value) (body : Body)
  /-- An element of a hash: the cell that was there, if there was one. -/
  | element (v : Value) (key : String) (previous : Option Value)

namespace Snapshot

/-- The kind of the localized place; an element of a hash is a scalar. -/
def kind : Snapshot → Kind
  | scalar _ _ _ => .scalar
  | array _ _ => .array
  | hash _ _ => .hash
  | glob _ _ => .glob
  | whole _ body => body.content.kind
  | element _ _ _ => .scalar

/-- Writes the saved content back. -/
def restore (heap : Heap) : Snapshot → Heap
  | .scalar v datum position => (heap.assign v datum).setPosition v position
  | .array v items => heap.setItems v items
  | .hash v entries => heap.setEntries v entries
  | .glob v slots => heap.setSlots v slots
  | .whole v body => heap.setBody v body
  | .element v key previous =>
    match heap.entries? v, previous with
    | some entries, some cell => heap.setEntries v (entries.insert key cell)
    | some entries, none => heap.setEntries v (entries.erase key)
    | none, _ => heap

/-- Writes a list of snapshots back, first one first. -/
def restoreAll (heap : Heap) (snapshots : List Snapshot) : Heap := snapshots.foldl restore heap

end Snapshot

namespace Heap

/-- Saves what a value holds and empties it. -/
def localize (heap : Heap) (v : Value) : Snapshot × Heap :=
  match heap.content v with
  | .scalar datum position => (.scalar v datum position, heap.assign v .undef)
  | .array items => (.array v items, heap.setItems v #[])
  | .hash entries => (.hash v entries, heap.setEntries v .empty)
  | .glob _ _ slots => (.glob v slots, heap.setSlots v {})
  | .code _ _ => (.whole v (heap.body v), heap)
  | .handle _ => (.whole v (heap.body v), heap)
  | .regex _ => (.whole v (heap.body v), heap)

/-- Sets the cell under a key of a hash aside for a fresh undefined one, which is answered with the
snapshot. -/
def localizeElement (heap : Heap) (hash : Value) (key : String) :
    Except ValueError ((Snapshot × Value) × Heap) :=
  match heap.entries? hash with
  | none => .error (.kindMismatch .hash (heap.kind hash))
  | some entries =>
    let (cell, heap) := heap.newScalar .undef
    .ok ((.element hash key (entries.get? key), cell),
      heap.setEntries hash (entries.insert key cell))

end Heap

end DynamicValues
