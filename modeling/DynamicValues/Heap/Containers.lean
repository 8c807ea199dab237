import DynamicValues.Heap.Construct

/-!
# Elements of arrays, hashes and globs

Reading an element answers its cell, so writing to what was read writes to the container. Asking for
an element in order to write to it makes the missing cells first.

Each function leaves a value of another kind alone.
-/

set_option autoImplicit false

namespace DynamicValues

namespace Heap

/-! ## Arrays -/

/-- The cell at an index. -/
def arrayGet? (heap : Heap) (array : Value) (index : Nat) : Option Value :=
  (heap.items? array).bind (·[index]?)

/-- Fresh undefined cells appended until there are `count` more. -/
def growItems (heap : Heap) (items : Array Value) : (count : Nat) → Array Value × Heap
  | 0 => (items, heap)
  | count + 1 =>
    let (cell, heap) := heap.newScalar .undef
    growItems heap (items.push cell) count

/-- The cell at an index; the array grows by undefined cells where it is too short. -/
def arrayElement (heap : Heap) (array : Value) (index : Nat) : Option Value × Heap :=
  match heap.items? array with
  | none => (none, heap)
  | some items =>
    let (items, heap) := heap.growItems items (index + 1 - items.size)
    (items[index]?, heap.setItems array items)

/-- Appends a fresh cell. -/
def push (heap : Heap) (array : Value) (datum : Datum) : Heap :=
  match heap.items? array with
  | none => heap
  | some items =>
    let (cell, heap) := heap.newScalar datum
    heap.setItems array (items.push cell)

/-- Takes the last cell off. -/
def pop (heap : Heap) (array : Value) : Option Value × Heap :=
  match heap.items? array with
  | none => (none, heap)
  | some items => (items.back?, heap.setItems array items.pop)

/-- Takes all cells off. -/
def clear (heap : Heap) (array : Value) : Heap := heap.setItems array #[]

/-! ## Hashes -/

/-- The cell under a key. -/
def hashGet? (heap : Heap) (hash : Value) (key : String) : Option Value :=
  (heap.entries? hash).bind (·.get? key)

/-- The cell under a key, made undefined if there is none. -/
def hashElement (heap : Heap) (hash : Value) (key : String) : Option Value × Heap :=
  match heap.entries? hash with
  | none => (none, heap)
  | some entries =>
    match entries.get? key with
    | some cell => (some cell, heap)
    | none =>
      let (cell, heap) := heap.newScalar .undef
      (some cell, heap.setEntries hash (entries.insert key cell))

/-- Puts a fresh cell under a key. -/
def hashInsert (heap : Heap) (hash : Value) (key : String) (datum : Datum) : Heap :=
  match heap.entries? hash with
  | none => heap
  | some entries =>
    let (cell, heap) := heap.newScalar datum
    heap.setEntries hash (entries.insert key cell)

/-- Takes a key out and answers its cell. -/
def hashRemove (heap : Heap) (hash : Value) (key : String) : Option Value × Heap :=
  match heap.entries? hash with
  | none => (none, heap)
  | some entries => (entries.get? key, heap.setEntries hash (entries.erase key))

/-- Whether a hash has a key. -/
def hashContains (heap : Heap) (hash : Value) (key : String) : Bool :=
  (heap.hashGet? hash key).isSome

/-! ## Globs -/

/-- The slots of a glob. -/
def slots? (heap : Heap) (glob : Value) : Option GlobSlots :=
  match heap.content glob with
  | .glob _ _ slots => some slots
  | _ => none

end Heap

/-- The kinds of containers that come into being on first use. -/
inductive ContainerKind where
  | scalar
  | array
  | hash
  deriving Repr, DecidableEq

namespace ContainerKind

def kind : ContainerKind → Kind
  | scalar => .scalar
  | array => .array
  | hash => .hash

/-- The container kind that a kind is, if it is one. -/
def ofKind? : Kind → Option ContainerKind
  | .scalar => some scalar
  | .array => some array
  | .hash => some hash
  | _ => none

/-- An empty container. -/
def emptyContent : ContainerKind → Content
  | scalar => .scalar .undef none
  | array => .array #[]
  | hash => .hash .empty

/-- The slot of a glob for this kind. -/
def slot (kind : ContainerKind) (slots : GlobSlots) : Option Value :=
  match kind with
  | scalar => slots.scalar
  | array => slots.array
  | hash => slots.hash

/-- The slots with this one filled. -/
def fillSlot (kind : ContainerKind) (slots : GlobSlots) (v : Value) : GlobSlots :=
  match kind with
  | scalar => { slots with scalar := some v }
  | array => { slots with array := some v }
  | hash => { slots with hash := some v }

end ContainerKind

namespace Heap

/-- The container in a slot of a glob, made empty on first use. -/
def globVivify (heap : Heap) (glob : Value) (kind : ContainerKind) : Option Value × Heap :=
  match heap.slots? glob with
  | none => (none, heap)
  | some slots =>
    match kind.slot slots with
    | some container => (some container, heap)
    | none =>
      let (container, heap) := heap.allocContent kind.emptyContent
      (some container, heap.setSlots glob (kind.fillSlot slots container))

/-- Puts a subroutine or a file handle into its slot. -/
def globSet (heap : Heap) (glob v : Value) : Heap :=
  match heap.slots? glob, heap.kind v with
  | some slots, .code => heap.setSlots glob { slots with code := some v }
  | some slots, .handle => heap.setSlots glob { slots with handle := some v }
  | _, _ => heap

end Heap

end DynamicValues
