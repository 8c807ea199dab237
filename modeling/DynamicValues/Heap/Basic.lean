import DynamicValues.Kind
import DynamicValues.Table
import DynamicValues.Number.Basic
import DynamicValues.Pattern.Compiled

/-!
# The heap

Every value is a handle on a body in the heap. Two handles on one body are aliases: what is written
through one is read through the other. A body never changes its kind and is never taken away, so a
handle stays good for ever.

The elements of arrays and the values of hashes are bodies of their own, scalar cells, so a
reference to an element is a reference to its cell.

Reading through a handle that the heap never gave out finds an undefined scalar, and writing through
one does nothing; no operation makes such a handle.
-/

set_option autoImplicit false

namespace DynamicValues

/-- A handle on a body. Two handles are on one body exactly if they are equal. -/
structure Value where
  id : Nat
  deriving Repr, DecidableEq, Inhabited

/-- The number of a class in its symbol table, a word of 32 bits. -/
structure StashId where
  number : UInt32
  deriving Repr, DecidableEq, Inhabited

namespace StashId

/-- The place of a class in its symbol table. -/
def index (id : StashId) : Nat := id.number.toNat

/-- The number for a place; places past the range of the word have none. -/
def ofIndex? (index : Nat) : Option StashId :=
  if index < UInt32.size then some ⟨.ofNat index⟩ else none

theorem index_lt (id : StashId) : id.index < UInt32.size := id.number.toNat_lt

theorem index_inj {id other : StashId} : id.index = other.index ↔ id = other := by
  cases id
  cases other
  simp [index, UInt32.toNat_inj]

theorem ofIndex?_eq_some_iff {index : Nat} {id : StashId} :
    ofIndex? index = some id ↔ id.index = index := by
  unfold ofIndex?
  split
  · next hlt =>
    rw [Option.some.injEq, ← index_inj, StashId.index, UInt32.toNat_ofNat_of_lt' hlt]
    exact eq_comm
  · next hge =>
    simp only [reduceCtorEq, false_iff]
    rintro rfl
    exact hge id.index_lt

theorem ofIndex?_eq_none_iff {index : Nat} : ofIndex? index = none ↔ UInt32.size ≤ index := by
  unfold ofIndex?
  split <;> simp_all

end StashId

/-- What a scalar cell holds. -/
inductive Datum where
  | undef
  | int (n : Int64)
  | float (x : Float64)
  | text (s : String)
  /-- A reference to a body. -/
  | ref (target : Value)
  deriving Repr, DecidableEq, Inhabited

namespace Datum

def isDefined : Datum → Bool
  | undef => false
  | _ => true

/-- The body a reference points at. -/
def target? : Datum → Option Value
  | ref target => some target
  | _ => none

/-- Equality of contents. Floating point numbers compare as numbers, references by what they point
at, and contents of different forms are never equal. -/
def equals : Datum → Datum → Bool
  | undef, undef => true
  | int m, int n => m == n
  | float x, float y => x.numEq y
  | text s, text t => s == t
  | ref a, ref b => a == b
  | _, _ => false

end Datum

/-- A native body: a pointer to a function, which is not part of the heap. -/
structure Native where
  pointer : Nat
  deriving Repr, DecidableEq, Inhabited

/-- The slots of a glob. -/
structure GlobSlots where
  scalar : Option Value := none
  array : Option Value := none
  hash : Option Value := none
  code : Option Value := none
  handle : Option Value := none
  deriving Repr, DecidableEq, Inhabited

/-- What a body holds, by kind. -/
inductive Content where
  /-- A scalar cell: its datum, and the position of a global match in it, in characters. -/
  | scalar (datum : Datum) (position : Option Nat)
  /-- The element cells in order. -/
  | array (items : Array Value)
  /-- The value cells by key. -/
  | hash (entries : Table Value)
  /-- A subroutine; without a native body it is only declared. -/
  | code (name : String) (native : Option Native)
  /-- A symbol `package::name`. -/
  | glob (package name : String) (slots : GlobSlots)
  /-- A file handle, of which only the name matters here. -/
  | handle (name : String)
  | regex (pattern : CompiledPattern)

/-- The kind of a content. -/
def Content.kind : Content → Kind
  | scalar _ _ => .scalar
  | array _ => .array
  | hash _ => .hash
  | code _ _ => .code
  | glob _ _ _ => .glob
  | handle _ => .handle
  | regex _ => .regex

/-- A body: its content and the class it is blessed into. -/
structure Body where
  content : Content
  blessing : Option StashId := none

/-- What is found through a handle that the heap never gave out. -/
def Body.missing : Body := { content := .scalar .undef none }

instance : Inhabited Body := ⟨.missing⟩

/-- All bodies; a handle is an index. -/
structure Heap where
  bodies : Array Body
  deriving Inhabited

namespace Heap

def empty : Heap := ⟨#[]⟩

def size (heap : Heap) : Nat := heap.bodies.size

/-- The body under a handle. -/
def body (heap : Heap) (v : Value) : Body := heap.bodies.getD v.id .missing

def content (heap : Heap) (v : Value) : Content := (heap.body v).content

def kind (heap : Heap) (v : Value) : Kind := (heap.content v).kind

/-- The class that a body itself is blessed into. -/
def blessing (heap : Heap) (v : Value) : Option StashId := (heap.body v).blessing

/-- Adds a body and answers the handle on it. -/
def alloc (heap : Heap) (body : Body) : Value × Heap := (⟨heap.size⟩, ⟨heap.bodies.push body⟩)

/-- Adds a body without a class. -/
def allocContent (heap : Heap) (content : Content) : Value × Heap := heap.alloc { content }

/-- Replaces the body under a handle. -/
def setBody (heap : Heap) (v : Value) (body : Body) : Heap :=
  ⟨heap.bodies.setIfInBounds v.id body⟩

/-- Replaces the content under a handle and keeps the class. -/
def setContent (heap : Heap) (v : Value) (content : Content) : Heap :=
  heap.setBody v { heap.body v with content }

/-- Blesses a body into a class, or into none. -/
def setBlessing (heap : Heap) (v : Value) (blessing : Option StashId) : Heap :=
  heap.setBody v { heap.body v with blessing }

/-! ## Reading and writing point by point -/

theorem body_alloc_new (heap : Heap) (b : Body) : (heap.alloc b).2.body (heap.alloc b).1 = b := by
  simp [alloc, body, size]

theorem body_alloc_old {heap : Heap} {b : Body} {v : Value} (h : v.id < heap.size) :
    (heap.alloc b).2.body v = heap.body v := by
  simp only [size] at h
  simp [alloc, body, Array.getElem?_push, Nat.ne_of_lt h]

@[simp] theorem size_alloc (heap : Heap) (b : Body) :
    (heap.alloc b).2.size = heap.size + 1 := by
  simp [alloc, size]

@[simp] theorem size_setBody (heap : Heap) (v : Value) (b : Body) :
    (heap.setBody v b).size = heap.size := by
  simp [setBody, size]

theorem body_setBody_self {heap : Heap} {v : Value} {b : Body} (h : v.id < heap.size) :
    (heap.setBody v b).body v = b := by
  simp only [size] at h
  simp [setBody, body, h]

theorem body_setBody_ne {heap : Heap} {v w : Value} {b : Body} (h : v ≠ w) :
    (heap.setBody v b).body w = heap.body w := by
  have hid : v.id ≠ w.id := fun e => h (by cases v; cases w; simp_all)
  simp [setBody, body, hid]

/-! ## Content by kind -/

/-- The datum of a scalar. -/
def datum? (heap : Heap) (v : Value) : Option Datum :=
  match heap.content v with
  | .scalar datum _ => some datum
  | _ => none

/-- The match position of a scalar, if it has one. -/
def position? (heap : Heap) (v : Value) : Option Nat :=
  match heap.content v with
  | .scalar _ position => position
  | _ => none

/-- The element cells of an array. -/
def items? (heap : Heap) (v : Value) : Option (Array Value) :=
  match heap.content v with
  | .array items => some items
  | _ => none

/-- The value cells of a hash. -/
def entries? (heap : Heap) (v : Value) : Option (Table Value) :=
  match heap.content v with
  | .hash entries => some entries
  | _ => none

/-- The body that a scalar refers to. -/
def referent? (heap : Heap) (v : Value) : Option Value := (heap.datum? v).bind Datum.target?

def isReference (heap : Heap) (v : Value) : Bool := (heap.referent? v).isSome

/-- Only an undefined scalar is not defined. -/
def isDefined (heap : Heap) (v : Value) : Bool :=
  match heap.datum? v with
  | some datum => datum.isDefined
  | none => true

/-- Stores a datum in a scalar and forgets the match position. Other kinds stay as they are. -/
def assign (heap : Heap) (v : Value) (datum : Datum) : Heap :=
  match heap.content v with
  | .scalar _ _ => heap.setContent v (.scalar datum none)
  | _ => heap

/-- Sets or clears the match position of a scalar. Other kinds stay as they are. -/
def setPosition (heap : Heap) (v : Value) (position : Option Nat) : Heap :=
  match heap.content v with
  | .scalar datum _ => heap.setContent v (.scalar datum position)
  | _ => heap

/-- Replaces the cells of an array. Other kinds stay as they are. -/
def setItems (heap : Heap) (v : Value) (items : Array Value) : Heap :=
  match heap.content v with
  | .array _ => heap.setContent v (.array items)
  | _ => heap

/-- Replaces the cells of a hash. Other kinds stay as they are. -/
def setEntries (heap : Heap) (v : Value) (entries : Table Value) : Heap :=
  match heap.content v with
  | .hash _ => heap.setContent v (.hash entries)
  | _ => heap

/-- Replaces the slots of a glob. Other kinds stay as they are. -/
def setSlots (heap : Heap) (v : Value) (slots : GlobSlots) : Heap :=
  match heap.content v with
  | .glob package name _ => heap.setContent v (.glob package name slots)
  | _ => heap

end Heap

end DynamicValues
