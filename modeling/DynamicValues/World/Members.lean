import DynamicValues.World.Basic

/-!
# Walking over the members of a container

An array yields its cells in order and looks at its length at every step, so growth is seen and
shrinking ends the walk. A hash yields key and cell in turn, over the keys that it had in the
beginning: a key that is gone when its turn comes is skipped, and a key that came later is not
visited. The cell that follows a key is the one that was there when the key was yielded.
-/

set_option autoImplicit false

namespace DynamicValues

/-- A walk in progress. -/
inductive Enumerator where
  | array (array : Value) (index : Nat)
  /-- The keys to come, and the cell of the key that was yielded last. -/
  | hash (hash : Value) (keys : List String) (pending : Option Value)
  deriving Repr, DecidableEq

namespace Enumerator

/-- The first of the keys that a table still has: the key, its cell and the keys after it. -/
def nextKey? (entries : Table Value) : List String → Option (String × Value × List String)
  | [] => none
  | key :: keys =>
    match entries.get? key with
    | some cell => some (key, cell, keys)
    | none => nextKey? entries keys

/-- The next member. A key is yielded in a fresh scalar. -/
def next (heap : Heap) : Enumerator → Option Value × Enumerator × Heap
  | array a index =>
    match heap.arrayGet? a index with
    | some cell => (some cell, array a (index + 1), heap)
    | none => (none, array a index, heap)
  | hash h keys (some cell) => (some cell, hash h keys none, heap)
  | hash h keys none =>
    match nextKey? ((heap.entries? h).getD .empty) keys with
    | some (key, cell, keys) =>
      let (yielded, heap) := heap.newScalar (.text key)
      (some yielded, hash h keys (some cell), heap)
    | none => (none, hash h [] none, heap)

/-- A bound on the members that are still to come. -/
def remaining (heap : Heap) : Enumerator → Nat
  | array a index => ((heap.items? a).getD #[]).size - index
  | hash _ keys pending => 2 * keys.length + (if pending.isSome then 1 else 0)

/-- Takes up to `steps` members. -/
def take (heap : Heap) (walk : Enumerator) : (steps : Nat) → List Value × Heap
  | 0 => ([], heap)
  | steps + 1 =>
    match walk.next heap with
    | (some member, walk, heap) =>
      let (members, heap) := take heap walk steps
      (member :: members, heap)
    | (none, _, heap) => ([], heap)

/-- All members that are still to come. -/
def drain (heap : Heap) (walk : Enumerator) : List Value × Heap :=
  walk.take heap (walk.remaining heap)

end Enumerator

/-- Begins a walk over the members of an array or hash. -/
def Heap.members (heap : Heap) (v : Value) : Except ValueError Enumerator :=
  match heap.content v with
  | .array _ => .ok (.array v 0)
  | .hash entries => .ok (.hash v entries.keys none)
  | _ => .error (.kindMismatch .array (heap.kind v))

end DynamicValues
