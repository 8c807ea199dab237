import DynamicValues.Proofs.Heap.Evolve

/-!
# Contents that fit a heap

A content `Fits` a heap if the heap gave out all the handles in it. In a **closed** heap every content
fits. What fits goes on to fit as the heap evolves, so a closed heap stays closed when a body with a
fitting content is added or put in the place of another (`Closed.alloc`, `Closed.setBody`), and when
fresh cells are made for a list of fitting data.
-/

set_option autoImplicit false

namespace DynamicValues

/-! ## Fitting contents -/

/-- A list of handles that the heap gave out. -/
def Heap.Gave (heap : Heap) (handles : List Value) : Prop := ∀ w ∈ handles, w.id < heap.size

/-- The content holds only handles that the heap gave out. -/
def Content.Fits (content : Content) (heap : Heap) : Prop := heap.Gave content.handles

/-! ### Handles in tables -/

theorem mem_insertEntry {α : Type} {key : String} {value : α} {entries : List (String × α)}
    {entry : String × α} (h : entry ∈ insertEntry key value entries) :
    entry = (key, value) ∨ entry ∈ entries := by
  induction entries with
  | nil => exact .inl (by simpa [insertEntry] using h)
  | cons head rest ih =>
    obtain ⟨k, other⟩ := head
    rw [insertEntry] at h
    split at h
    · exact List.mem_cons.1 h
    · split at h
      · exact (List.mem_cons.1 h).imp id (List.mem_cons_of_mem _)
      · rcases List.mem_cons.1 h with rfl | h
        · exact .inr List.mem_cons_self
        · exact (ih h).imp id (List.mem_cons_of_mem _)

theorem Table.values_insert_subset {α : Type} (table : Table α) (key : String) (value : α) :
    (table.insert key value).values ⊆ value :: table.values := by
  intro w hw
  obtain ⟨entry, hentry, rfl⟩ := List.mem_map.1 hw
  rcases mem_insertEntry hentry with rfl | hold
  · exact List.mem_cons_self
  · exact List.mem_cons_of_mem _ (List.mem_map_of_mem hold)

theorem Table.values_erase_subset {α : Type} (table : Table α) (key : String) :
    (table.erase key).values ⊆ table.values := by
  intro w hw
  obtain ⟨entry, hentry, rfl⟩ := List.mem_map.1 hw
  exact List.mem_map_of_mem (List.mem_filter.1 hentry).1

theorem Table.mem_values_of_get? {α : Type} {table : Table α} {key : String} {value : α}
    (h : table.get? key = some value) : value ∈ table.values := by
  obtain ⟨entries, ascending⟩ := table
  simp only [get?, values] at h ⊢
  clear ascending
  induction entries with
  | nil => exact absurd h (by simp [lookupEntry])
  | cons head rest ih =>
    rw [lookupEntry] at h
    split at h
    · exact Option.some.inj h ▸ List.mem_cons_self
    · exact List.mem_cons_of_mem _ (ih h)

theorem toList_push_subset {α : Type} (items : Array α) (cell : α) :
    (items.push cell).toList ⊆ cell :: items.toList := by
  intro w hw
  simpa [or_comm] using hw

theorem GlobSlots.mem_filled {slots : GlobSlots} {w : Value} :
    w ∈ slots.filled ↔ slots.scalar = some w ∨ slots.array = some w ∨
      slots.hash = some w ∨ slots.code = some w ∨ slots.handle = some w := by
  simp [filled, eq_comm]

theorem GlobSlots.filled_code_subset (slots : GlobSlots) (v : Value) :
    ({ slots with code := some v } : GlobSlots).filled ⊆ v :: slots.filled := by
  intro w hw
  simp only [mem_filled, List.mem_cons, Option.some.injEq] at hw ⊢
  grind

theorem GlobSlots.filled_handle_subset (slots : GlobSlots) (v : Value) :
    ({ slots with handle := some v } : GlobSlots).filled ⊆ v :: slots.filled := by
  intro w hw
  simp only [mem_filled, List.mem_cons, Option.some.injEq] at hw ⊢
  grind

theorem ContainerKind.filled_fillSlot_subset (kind : ContainerKind) (slots : GlobSlots)
    (v : Value) : (kind.fillSlot slots v).filled ⊆ v :: slots.filled := by
  intro w hw
  simp only [GlobSlots.mem_filled, List.mem_cons] at hw ⊢
  cases kind <;> simp only [fillSlot, Option.some.injEq] at hw <;> grind

/-! ### Handles in copies -/

/-- A copy holds what the original holds, or copies of that. -/
theorem Tour.handles_copyContent {tour : Tour} {size hops : Nat} {content : Content} {w : Value}
    (h : w ∈ (tour.copyContent size hops content).handles) :
    ∃ u ∈ content.handles, w = u ∨ w = tour.image size u := by
  cases content with
  | scalar datum position =>
    cases datum with
    | ref target =>
      refine ⟨target, by simp [Content.handles, Datum.target?], ?_⟩
      simp only [copyContent, Content.handles, Datum.target?, Option.toList_some,
        List.mem_singleton] at h
      split at h
      · exact .inr h
      · exact .inl h
    | undef | int | float | text => exact absurd h List.not_mem_nil
  | array items =>
    obtain ⟨u, hu, rfl⟩ := by simpa [copyContent, Content.handles] using h
    exact ⟨u, by simpa [Content.handles] using hu, .inr rfl⟩
  | hash entries =>
    obtain ⟨u, hu, rfl⟩ := by simpa [copyContent, Content.handles] using h
    exact ⟨u, hu, .inr rfl⟩
  | code | glob | handle | regex => exact ⟨w, h, .inl rfl⟩

/-! ### Handles in heaps -/

namespace Heap

variable {heap heap' : Heap} {v : Value} {content : Content}

theorem Gave.subset {handles handles' : List Value} (h : heap.Gave handles)
    (hsub : handles' ⊆ handles) : heap.Gave handles' := fun w hw => h w (hsub hw)

theorem gave_nil (heap : Heap) : heap.Gave [] := fun _ hw => absurd hw List.not_mem_nil

theorem gave_empty (heap : Heap) : heap.Gave (Table.empty : Table Value).values := heap.gave_nil

theorem Gave.evolves {handles : List Value} (h : heap.Gave handles) (evolves : heap.Evolves heap') :
    heap'.Gave handles := fun w hw => Nat.lt_of_lt_of_le (h w hw) evolves.size

theorem Gave.cons {handles : List Value} (h : heap.Gave handles) (hv : v.id < heap.size) :
    heap.Gave (v :: handles) := by
  intro w hw
  rcases List.mem_cons.1 hw with rfl | hw
  · exact hv
  · exact h w hw

/-- Every content in a closed heap fits it. -/
theorem Closed.fits (closed : heap.Closed) (v : Value) : (heap.content v).Fits heap := by
  intro w hw
  by_cases hv : v.id < heap.size
  · exact closed v.id hv w hw
  · rw [content, body_of_size_le (Nat.le_of_not_lt hv)] at hw
    exact absurd hw (by simp [Body.missing, Content.handles, Datum.target?])

theorem closed_of_fits (h : ∀ v : Value, v.id < heap.size → (heap.content v).Fits heap) :
    heap.Closed := by
  intro id hid w hw
  exact h ⟨id⟩ hid w hw

theorem closed_empty : empty.Closed := by
  intro id hid
  exact absurd hid (Nat.not_lt_zero id)

/-! ## One body -/

theorem Closed.alloc (closed : heap.Closed) {body : Body} (fits : body.content.Fits heap) :
    (heap.alloc body).2.Closed := by
  have hevolves := Evolves.alloc heap body
  refine closed_of_fits fun v hv => ?_
  by_cases hold : v.id < heap.size
  · have hsame : (heap.alloc body).2.content v = heap.content v := by
      rw [content, body_alloc_old hold, content]
    rw [hsame]
    exact Gave.evolves (closed.fits v) hevolves
  · -- The only handle that is new is the one that was answered.
    have hnew : v = (heap.alloc body).1 := by
      rw [size_alloc] at hv
      have hid : v.id = heap.size := by omega
      cases v
      simp_all [Heap.alloc]
    rw [hnew, content, body_alloc_new]
    exact Gave.evolves fits hevolves

theorem Closed.setBody (closed : heap.Closed) {body : Body} (fits : body.content.Fits heap) :
    (heap.setBody v body).Closed := by
  have hsize := size_setBody heap v body
  refine closed_of_fits fun w hw => ?_
  rw [Content.Fits, Gave, hsize]
  by_cases hvw : v = w
  · subst hvw
    rw [content, body_setBody_self (hsize ▸ hw)]
    exact fits
  · rw [content, body_setBody_ne hvw]
    exact closed.fits w

section Replace

variable (closed : heap.Closed)
include closed

theorem Closed.assign {datum : Datum} (fits : heap.Gave datum.target?.toList) :
    (heap.assign v datum).Closed := by
  unfold Heap.assign
  split
  · exact closed.setBody fits
  · exact closed

theorem Closed.setPosition (position : Option Nat) : (heap.setPosition v position).Closed := by
  unfold Heap.setPosition
  split
  · next datum _ hcontent =>
    have hfits := closed.fits v
    rw [hcontent] at hfits
    exact closed.setBody hfits
  · exact closed

theorem Closed.setItems {items : Array Value} (fits : heap.Gave items.toList) :
    (heap.setItems v items).Closed := by
  unfold Heap.setItems
  split
  · exact closed.setBody fits
  · exact closed

theorem Closed.setEntries {entries : Table Value} (fits : heap.Gave entries.values) :
    (heap.setEntries v entries).Closed := by
  unfold Heap.setEntries
  split
  · exact closed.setBody fits
  · exact closed

theorem Closed.setSlots {slots : GlobSlots} (fits : heap.Gave slots.filled) :
    (heap.setSlots v slots).Closed := by
  unfold Heap.setSlots
  split
  · exact closed.setBody fits
  · exact closed

end Replace

/-! ## Fresh cells -/

theorem Closed.newScalar (closed : heap.Closed) {datum : Datum}
    (fits : heap.Gave datum.target?.toList) : (heap.newScalar datum).2.Closed := by
  show (heap.alloc ⟨.scalar datum none, none⟩).2.Closed
  exact closed.alloc fits

/-- The handle on a fresh body is one that the larger heap gave out. -/
theorem gave_alloc (heap : Heap) (body : Body) {handles : List Value} (h : heap.Gave handles) :
    (heap.alloc body).2.Gave ((heap.alloc body).1 :: handles) := by
  refine (h.evolves (.alloc heap body)).cons ?_
  rw [size_alloc]
  exact Nat.lt_succ_self _

theorem gave_newScalar (heap : Heap) (datum : Datum) {handles : List Value}
    (h : heap.Gave handles) :
    (heap.newScalar datum).2.Gave ((heap.newScalar datum).1 :: handles) := heap.gave_alloc _ h

theorem Closed.newCells (closed : heap.Closed) {data : List Datum}
    (fits : ∀ datum ∈ data, heap.Gave datum.target?.toList) :
    (heap.newCells data).2.Closed ∧ (heap.newCells data).2.Gave (heap.newCells data).1 := by
  induction data generalizing heap with
  | nil => exact ⟨closed, by simp [Gave, Heap.newCells]⟩
  | cons datum data ih =>
    have hevolves := heap.evolves_newScalar datum
    have hcell := heap.gave_newScalar datum (fits datum List.mem_cons_self)
    obtain ⟨hclosed, hcells⟩ := ih (closed.newScalar (fits datum List.mem_cons_self))
      fun other hother => (fits other (List.mem_cons_of_mem _ hother)).evolves hevolves
    refine ⟨hclosed, hcells.cons ?_⟩
    exact (hcell.evolves (evolves_newCells _ data)) _ List.mem_cons_self

theorem Closed.newEntries (closed : heap.Closed) {pairs : List (String × Datum)}
    {entries : Table Value} (fitsEntries : heap.Gave entries.values)
    (fits : ∀ pair ∈ pairs, heap.Gave pair.2.target?.toList) :
    (heap.newEntries entries pairs).2.Closed ∧
      (heap.newEntries entries pairs).2.Gave (heap.newEntries entries pairs).1.values := by
  induction pairs generalizing heap entries with
  | nil => exact ⟨closed, fitsEntries⟩
  | cons pair pairs ih =>
    obtain ⟨key, datum⟩ := pair
    have hevolves := heap.evolves_newScalar datum
    have hcell := heap.gave_newScalar datum fitsEntries
    exact ih (closed.newScalar (fits _ List.mem_cons_self))
      (hcell.subset (Table.values_insert_subset _ _ _))
      fun other hother => (fits other (List.mem_cons_of_mem _ hother)).evolves hevolves

theorem Closed.growItems (closed : heap.Closed) {items : Array Value}
    (fits : heap.Gave items.toList) (count : Nat) :
    (heap.growItems items count).2.Closed ∧
      (heap.growItems items count).2.Gave (heap.growItems items count).1.toList := by
  induction count generalizing heap items with
  | zero => exact ⟨closed, fits⟩
  | succ count ih =>
    have hcell := heap.gave_newScalar .undef fits
    exact ih (closed.newScalar (gave_nil _))
      (hcell.subset (toList_push_subset _ _))

end Heap

end DynamicValues
