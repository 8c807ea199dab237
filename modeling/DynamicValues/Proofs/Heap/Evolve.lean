import DynamicValues.Proofs.Heap.DeepCopy
import DynamicValues.World.Assignment
import DynamicValues.World.Identity
import DynamicValues.World.Reference
import Mathlib.Tactic.ByContra

/-!
# How a heap can change

Whatever is done to a heap, its bodies stay: none is taken away and none changes its **kind**.
`Heap.Evolves` says this of an earlier and a later heap. It is all that a snapshot needs in order to
be restored in the later one.

Every operation on heaps adds bodies (`Evolves.alloc`) or replaces the content of one body by one of
the same kind (`Heap.Rewrites`), or does one after the other.
-/

set_option autoImplicit false

namespace DynamicValues

/-! ## Contents by kind -/

namespace Content

theorem eq_scalar_of_kind {content : Content} (h : content.kind = .scalar) :
    ∃ datum position, content = .scalar datum position := by
  cases content with
  | scalar datum position => exact ⟨datum, position, rfl⟩
  | _ => exact absurd h (by simp [kind])

theorem eq_array_of_kind {content : Content} (h : content.kind = .array) :
    ∃ items, content = .array items := by
  cases content with
  | array items => exact ⟨items, rfl⟩
  | _ => exact absurd h (by simp [kind])

theorem eq_hash_of_kind {content : Content} (h : content.kind = .hash) :
    ∃ entries, content = .hash entries := by
  cases content with
  | hash entries => exact ⟨entries, rfl⟩
  | _ => exact absurd h (by simp [kind])

theorem eq_glob_of_kind {content : Content} (h : content.kind = .glob) :
    ∃ package name slots, content = .glob package name slots := by
  cases content with
  | glob package name slots => exact ⟨package, name, slots, rfl⟩
  | _ => exact absurd h (by simp [kind])

end Content

namespace Heap

/-- The bodies of the first heap are in the second one too, each with its kind. -/
structure Evolves (heap heap' : Heap) : Prop where
  size : heap.size ≤ heap'.size
  kind : ∀ v : Value, v.id < heap.size → heap'.kind v = heap.kind v

/-! ## Steps -/

namespace Evolves

theorem refl (heap : Heap) : heap.Evolves heap := ⟨Nat.le_refl _, fun _ _ => rfl⟩

theorem trans {heap heap' heap'' : Heap} (h : heap.Evolves heap') (h' : heap'.Evolves heap'') :
    heap.Evolves heap'' where
  size := Nat.le_trans h.size h'.size
  kind := by
    intro v hv
    rw [h'.kind v (Nat.lt_of_lt_of_le hv h.size), h.kind v hv]

theorem alloc (heap : Heap) (body : Body) : heap.Evolves (heap.alloc body).2 where
  size := by
    rw [size_alloc]
    exact Nat.le_succ _
  kind := by
    intro v hv
    simp only [Heap.kind, content, body_alloc_old hv]

theorem setBody {heap : Heap} {v : Value} {body : Body} (h : body.content.kind = heap.kind v) :
    heap.Evolves (heap.setBody v body) where
  size := by rw [size_setBody]
  kind := by
    intro w hw
    by_cases hvw : v = w
    · subst hvw
      rw [Heap.kind, content, body_setBody_self hw]
      exact h
    · simp only [Heap.kind, content, body_setBody_ne hvw]

end Evolves

/-! ## Handles that were never given out -/

theorem body_of_size_le {heap : Heap} {v : Value} (h : heap.size ≤ v.id) :
    heap.body v = .missing := by
  simp only [size] at h
  simp [body, h]

theorem setBody_of_size_le {heap : Heap} {v : Value} (h : heap.size ≤ v.id) (body : Body) :
    heap.setBody v body = heap := by
  simp only [size] at h
  simp [setBody, Array.setIfInBounds, Nat.not_lt.2 h]

/-- Through a handle that the heap never gave out, a scalar is found. -/
theorem lt_size_of_kind_ne_scalar {heap : Heap} {v : Value} (h : heap.kind v ≠ .scalar) :
    v.id < heap.size := by
  by_contra hge
  refine h ?_
  rw [kind, content, body_of_size_le (Nat.le_of_not_lt hge)]
  rfl

/-! ## Replacing one content -/

/-- At most the content under `v` is replaced, by one of the same kind. -/
def Rewrites (heap : Heap) (v : Value) (heap' : Heap) : Prop :=
  heap' = heap ∨ ∃ content : Content, content.kind = heap.kind v ∧ heap' = heap.setContent v content

theorem content_setContent_self {heap : Heap} {v : Value} {content : Content}
    (h : v.id < heap.size) : (heap.setContent v content).content v = content := by
  unfold setContent
  rw [Heap.content, body_setBody_self h]

namespace Rewrites

variable {heap heap' : Heap} {v w : Value}

theorem evolves (h : heap.Rewrites v heap') : heap.Evolves heap' := by
  rcases h with rfl | ⟨content, hkind, rfl⟩
  · exact .refl _
  · exact .setBody hkind

theorem content_ne (h : heap.Rewrites v heap') (hne : v ≠ w) :
    heap'.content w = heap.content w := by
  rcases h with rfl | ⟨content, -, rfl⟩
  · rfl
  · unfold setContent
    rw [Heap.content, body_setBody_ne hne, Heap.content]

theorem body_ne (h : heap.Rewrites v heap') (hne : v ≠ w) : heap'.body w = heap.body w := by
  rcases h with rfl | ⟨content, -, rfl⟩
  · rfl
  · exact body_setBody_ne hne

theorem size_eq (h : heap.Rewrites v heap') : heap'.size = heap.size := by
  rcases h with rfl | ⟨content, -, rfl⟩
  · rfl
  · exact size_setBody heap v _

end Rewrites

section Replace

variable (heap : Heap) (v : Value)

theorem rewrites_assign (datum : Datum) : heap.Rewrites v (heap.assign v datum) := by
  unfold assign
  split
  · next h => exact .inr ⟨_, by rw [kind, h]; rfl, rfl⟩
  · exact .inl rfl

theorem rewrites_setPosition (position : Option Nat) :
    heap.Rewrites v (heap.setPosition v position) := by
  unfold setPosition
  split
  · next h => exact .inr ⟨_, by rw [kind, h]; rfl, rfl⟩
  · exact .inl rfl

theorem rewrites_setItems (items : Array Value) : heap.Rewrites v (heap.setItems v items) := by
  unfold setItems
  split
  · next h => exact .inr ⟨_, by rw [kind, h]; rfl, rfl⟩
  · exact .inl rfl

theorem rewrites_setEntries (entries : Table Value) :
    heap.Rewrites v (heap.setEntries v entries) := by
  unfold setEntries
  split
  · next h => exact .inr ⟨_, by rw [kind, h]; rfl, rfl⟩
  · exact .inl rfl

theorem rewrites_setSlots (slots : GlobSlots) : heap.Rewrites v (heap.setSlots v slots) := by
  unfold setSlots
  split
  · next h => exact .inr ⟨_, by rw [kind, h]; rfl, rfl⟩
  · exact .inl rfl

end Replace

section Self

variable {heap : Heap} {v : Value} (hlt : v.id < heap.size)
include hlt

theorem content_assign_self {datum : Datum} {position : Option Nat}
    (h : heap.content v = .scalar datum position) (new : Datum) :
    (heap.assign v new).content v = .scalar new none := by
  unfold assign
  rw [h]
  exact content_setContent_self hlt

theorem content_setPosition_self {datum : Datum} {position : Option Nat}
    (h : heap.content v = .scalar datum position) (new : Option Nat) :
    (heap.setPosition v new).content v = .scalar datum new := by
  unfold setPosition
  rw [h]
  exact content_setContent_self hlt

theorem content_setItems_self {items : Array Value} (h : heap.content v = .array items)
    (new : Array Value) : (heap.setItems v new).content v = .array new := by
  unfold setItems
  rw [h]
  exact content_setContent_self hlt

theorem content_setEntries_self {entries : Table Value} (h : heap.content v = .hash entries)
    (new : Table Value) : (heap.setEntries v new).content v = .hash new := by
  unfold setEntries
  rw [h]
  exact content_setContent_self hlt

theorem content_setSlots_self {package name : String} {slots : GlobSlots}
    (h : heap.content v = .glob package name slots) (new : GlobSlots) :
    (heap.setSlots v new).content v = .glob package name new := by
  unfold setSlots
  rw [h]
  exact content_setContent_self hlt

end Self

/-! ## Fresh cells -/

/-- A fresh body leaves the contents that are there alone. -/
theorem content_allocContent {heap : Heap} {v : Value} (new : Content) (hlt : v.id < heap.size) :
    (heap.allocContent new).2.content v = heap.content v := by
  rw [allocContent, content, body_alloc_old hlt, content]

theorem evolves_newScalar (heap : Heap) (datum : Datum) : heap.Evolves (heap.newScalar datum).2 :=
  .alloc heap _

theorem evolves_newCells (heap : Heap) (data : List Datum) :
    heap.Evolves (heap.newCells data).2 := by
  induction data generalizing heap with
  | nil => exact .refl heap
  | cons datum data ih => exact (heap.evolves_newScalar datum).trans (ih _)

theorem evolves_newEntries (heap : Heap) (entries : Table Value) (pairs : List (String × Datum)) :
    heap.Evolves (heap.newEntries entries pairs).2 := by
  induction pairs generalizing heap entries with
  | nil => exact .refl heap
  | cons pair pairs ih => exact (heap.evolves_newScalar pair.2).trans (ih _ _)

theorem evolves_growItems (heap : Heap) (items : Array Value) (count : Nat) :
    heap.Evolves (heap.growItems items count).2 := by
  induction count generalizing heap items with
  | zero => exact .refl heap
  | succ count ih => exact (heap.evolves_newScalar .undef).trans (ih _ _)

theorem evolves_newArray (heap : Heap) (data : List Datum) : heap.Evolves (heap.newArray data).2 :=
  (heap.evolves_newCells data).trans (.alloc _ _)

theorem evolves_newHash (heap : Heap) (pairs : List (String × Datum)) :
    heap.Evolves (heap.newHash pairs).2 :=
  (heap.evolves_newEntries .empty pairs).trans (.alloc _ _)

/-! ## Operations -/

section Operations

variable (heap : Heap) (v : Value)

theorem evolves_arrayElement (index : Nat) : heap.Evolves (heap.arrayElement v index).2 := by
  unfold arrayElement
  split
  · exact .refl heap
  · exact (heap.evolves_growItems _ _).trans (rewrites_setItems _ _ _).evolves

theorem evolves_push (datum : Datum) : heap.Evolves (heap.push v datum) := by
  unfold push
  split
  · exact .refl heap
  · exact (heap.evolves_newScalar datum).trans (rewrites_setItems _ _ _).evolves

theorem evolves_pop : heap.Evolves (heap.pop v).2 := by
  unfold pop
  split
  · exact .refl heap
  · exact (heap.rewrites_setItems v _).evolves

theorem evolves_hashElement (key : String) : heap.Evolves (heap.hashElement v key).2 := by
  unfold hashElement
  split
  · exact .refl heap
  · split
    · exact .refl heap
    · exact (heap.evolves_newScalar .undef).trans (rewrites_setEntries _ _ _).evolves

theorem evolves_hashInsert (key : String) (datum : Datum) :
    heap.Evolves (heap.hashInsert v key datum) := by
  unfold hashInsert
  split
  · exact .refl heap
  · exact (heap.evolves_newScalar datum).trans (rewrites_setEntries _ _ _).evolves

theorem evolves_hashRemove (key : String) : heap.Evolves (heap.hashRemove v key).2 := by
  unfold hashRemove
  split
  · exact .refl heap
  · exact (heap.rewrites_setEntries v _).evolves

theorem evolves_globVivify (kind : ContainerKind) : heap.Evolves (heap.globVivify v kind).2 := by
  unfold globVivify
  split
  · exact .refl heap
  · split
    · exact .refl heap
    · exact (Evolves.alloc heap _).trans (rewrites_setSlots _ _ _).evolves

theorem evolves_globSet (content : Value) : heap.Evolves (heap.globSet v content) := by
  unfold globSet
  split
  · exact (heap.rewrites_setSlots v _).evolves
  · exact (heap.rewrites_setSlots v _).evolves
  · exact .refl heap

theorem evolves_assignArray (data : List Datum) : heap.Evolves (heap.assignArray v data) :=
  (heap.evolves_newCells data).trans (rewrites_setItems _ _ _).evolves

theorem evolves_assignHash (pairs : List (String × Datum)) :
    heap.Evolves (heap.assignHash v pairs) :=
  (heap.evolves_newEntries .empty pairs).trans (rewrites_setEntries _ _ _).evolves

theorem evolves_undefine : heap.Evolves (heap.undefine v).2 := by
  unfold undefine
  split
  · exact (heap.rewrites_assign v _).evolves
  · exact heap.evolves_newScalar .undef

theorem evolves_vivifyUndef {kind : ContainerKind} {container : Value} {heap' : Heap}
    (h : heap.vivifyUndef v kind = some (container, heap')) : heap.Evolves heap' := by
  unfold vivifyUndef at h
  split at h
  · obtain ⟨rfl, rfl⟩ := Prod.mk.inj (Option.some.inj h)
    exact (Evolves.alloc heap _).trans (rewrites_assign _ _ _).evolves
  · exact absurd h (by simp)

theorem evolves_clone (order : HashOrder) (v : Value) (hops : Nat) :
    heap.Evolves (heap.clone order v hops).2 where
  size := by
    rw [size_clone]
    exact Nat.le_add_right _ _
  kind := by
    intro w hw
    simp only [kind, content, body_clone_old hw]

theorem evolves_localize : heap.Evolves (heap.localize v).2 := by
  unfold localize
  split
  · exact (heap.rewrites_assign v _).evolves
  · exact (heap.rewrites_setItems v _).evolves
  · exact (heap.rewrites_setEntries v _).evolves
  · exact (heap.rewrites_setSlots v _).evolves
  · exact .refl heap
  · exact .refl heap
  · exact .refl heap

end Operations

end Heap

end DynamicValues
