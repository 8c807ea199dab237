import DynamicValues.Heap.Containers
import Mathlib.Logic.Relation

/-!
# What a value leads to

A body leads on to what its content holds: the target of a reference, the cells of an array or hash.
The slots of a glob do not count, since no walk over values goes through them. `Heap.Reaches` closes
this under any number of steps, and cycles are no trouble to it because it is a relation and not a
walk.

`Heap.Closed` says that no body holds a handle that the heap never gave out. Every handle comes from
an allocation and bodies are never taken away, so this is so for every heap that operations make
(`Heap.Made.closed`). A proof that follows handles needs it, because a dangling handle would read as
an undefined scalar now and as some other body after the next allocation.
-/

set_option autoImplicit false

namespace DynamicValues

/-! ## One step -/

/-- What a body with this content leads on to. -/
def Content.parts : Content → List Value
  | .scalar datum _ => datum.target?.toList
  | .array items => items.toList
  | .hash entries => entries.values
  | _ => []

/-- The bodies in the filled slots. -/
def GlobSlots.filled (slots : GlobSlots) : List Value :=
  [slots.scalar, slots.array, slots.hash, slots.code, slots.handle].filterMap id

/-- The handles that a content holds. -/
def Content.handles : Content → List Value
  | .scalar datum _ => datum.target?.toList
  | .array items => items.toList
  | .hash entries => entries.values
  | .glob _ _ slots => slots.filled
  | _ => []

/-- The handles in the slots of a glob are held, but do not lead on. -/
theorem Content.parts_subset_handles (content : Content) : content.parts ⊆ content.handles := by
  cases content with
  | scalar | array | hash => exact List.Subset.refl _
  | code | glob | handle | regex => exact List.nil_subset _

/-- A content with every body it leads on to replaced. The slots of a glob stay, and a scalar loses
its match position. -/
def Content.rename (f : Value → Value) : Content → Content
  | .scalar (.ref target) _ => .scalar (.ref (f target)) none
  | .scalar datum _ => .scalar datum none
  | .array items => .array (items.map f)
  | .hash entries => .hash (entries.map f)
  | content => content

@[simp] theorem Table.values_map {α β : Type} (f : α → β) (table : Table α) :
    (table.map f).values = table.values.map f := by
  simp [Table.values, Table.map, Function.comp_def]

@[simp] theorem Content.parts_rename (f : Value → Value) (content : Content) :
    (content.rename f).parts = content.parts.map f := by
  cases content with
  | scalar datum position => cases datum <;> rfl
  | array items => simp [Content.rename, Content.parts]
  | hash entries => simp [Content.rename, Content.parts]
  | code | glob | handle | regex => rfl

@[simp] theorem Content.kind_rename (f : Value → Value) (content : Content) :
    (content.rename f).kind = content.kind := by
  cases content with
  | scalar datum position => cases datum <;> rfl
  | array | hash | code | glob | handle | regex => rfl

namespace Heap

/-! ## Many steps -/

/-- `v` leads to `w` by steps through references, arrays and hashes, none included. -/
def Reaches (heap : Heap) : Value → Value → Prop :=
  Relation.ReflTransGen fun v w => w ∈ (heap.content v).parts

theorem Reaches.refl {heap : Heap} (v : Value) : heap.Reaches v v := Relation.ReflTransGen.refl

theorem Reaches.step {heap : Heap} {u v w : Value} (h : heap.Reaches u v)
    (hw : w ∈ (heap.content v).parts) : heap.Reaches u w := Relation.ReflTransGen.tail h hw

/-! ## Closed heaps -/

/-- No body holds a handle that the heap never gave out. -/
def Closed (heap : Heap) : Prop :=
  ∀ id < heap.size, ∀ w ∈ (heap.content ⟨id⟩).handles, w.id < heap.size

instance (heap : Heap) : Decidable heap.Closed :=
  inferInstanceAs
    (Decidable (∀ id < heap.size, ∀ w ∈ (heap.content ⟨id⟩).handles, w.id < heap.size))

theorem Closed.reaches {heap : Heap} (closed : heap.Closed) {v w : Value}
    (hv : v.id < heap.size) (h : heap.Reaches v w) : w.id < heap.size := by
  induction h with
  | refl => exact hv
  | tail _ hstep ih => exact closed _ ih _ (Content.parts_subset_handles _ hstep)

end Heap

end DynamicValues
