import DynamicValues.Proofs.Heap.Fits

/-!
# The heaps that operations make

An operation is given handles and stores them, gives out new ones, or moves those that are stored
already. So as long as it is given no handle that the heap never gave out, it stores none, and every
heap made from the empty one is **closed** (`Made.closed`).
-/

set_option autoImplicit false

namespace DynamicValues

namespace Heap

variable {heap heap' : Heap} {v : Value}

/-! ## Operations -/

section Operations

variable (closed : heap.Closed)
include closed

theorem Closed.items {items : Array Value} (h : heap.items? v = some items) :
    heap.Gave items.toList := by
  have hfits := closed.fits v
  unfold items? at h
  split at h
  · next hcontent =>
    obtain rfl := Option.some.inj h
    rwa [hcontent] at hfits
  · exact absurd h (by simp)

theorem Closed.entries {entries : Table Value} (h : heap.entries? v = some entries) :
    heap.Gave entries.values := by
  have hfits := closed.fits v
  unfold entries? at h
  split at h
  · next hcontent =>
    obtain rfl := Option.some.inj h
    rwa [hcontent] at hfits
  · exact absurd h (by simp)

theorem Closed.slots {slots : GlobSlots} (h : heap.slots? v = some slots) :
    heap.Gave slots.filled := by
  have hfits := closed.fits v
  unfold slots? at h
  split at h
  · next hcontent =>
    obtain rfl := Option.some.inj h
    rwa [hcontent] at hfits
  · exact absurd h (by simp)

theorem Closed.arrayElement (index : Nat) : (heap.arrayElement v index).2.Closed := by
  unfold Heap.arrayElement
  split
  · exact closed
  · next items hitems =>
    obtain ⟨hclosed, hgave⟩ := closed.growItems (closed.items hitems) (index + 1 - items.size)
    exact hclosed.setItems hgave

theorem Closed.push {datum : Datum} (fits : heap.Gave datum.target?.toList) :
    (heap.push v datum).Closed := by
  unfold Heap.push
  split
  · exact closed
  · next items hitems =>
    have hcell := heap.gave_newScalar datum (closed.items hitems)
    exact (closed.newScalar fits).setItems (hcell.subset (toList_push_subset _ _))

theorem Closed.pop : (heap.pop v).2.Closed := by
  unfold Heap.pop
  split
  · exact closed
  · next items hitems =>
    refine closed.setItems ((closed.items hitems).subset ?_)
    rw [Array.toList_pop]
    exact List.dropLast_subset _

theorem Closed.hashElement (key : String) : (heap.hashElement v key).2.Closed := by
  unfold Heap.hashElement
  split
  · exact closed
  · next entries hentries =>
    split
    · exact closed
    · have hcell := heap.gave_newScalar .undef (closed.entries hentries)
      refine (closed.newScalar (gave_nil _)).setEntries ?_
      exact hcell.subset (Table.values_insert_subset _ _ _)

theorem Closed.hashInsert (key : String) {datum : Datum} (fits : heap.Gave datum.target?.toList) :
    (heap.hashInsert v key datum).Closed := by
  unfold Heap.hashInsert
  split
  · exact closed
  · next entries hentries =>
    have hcell := heap.gave_newScalar datum (closed.entries hentries)
    exact (closed.newScalar fits).setEntries (hcell.subset (Table.values_insert_subset _ _ _))

theorem Closed.hashRemove (key : String) : (heap.hashRemove v key).2.Closed := by
  unfold Heap.hashRemove
  split
  · exact closed
  · next entries hentries =>
    exact closed.setEntries ((closed.entries hentries).subset (Table.values_erase_subset _ _))

theorem Closed.undefine : (heap.undefine v).2.Closed := by
  unfold Heap.undefine
  split
  · exact closed.assign heap.gave_nil
  · exact closed.newScalar heap.gave_nil

theorem Closed.assignArray {data : List Datum}
    (fits : ∀ datum ∈ data, heap.Gave datum.target?.toList) : (heap.assignArray v data).Closed := by
  obtain ⟨hclosed, hcells⟩ := closed.newCells fits
  exact hclosed.setItems hcells

theorem Closed.assignHash {pairs : List (String × Datum)}
    (fits : ∀ pair ∈ pairs, heap.Gave pair.2.target?.toList) :
    (heap.assignHash v pairs).Closed := by
  obtain ⟨hclosed, hcells⟩ := closed.newEntries heap.gave_empty fits
  exact hclosed.setEntries hcells

theorem Closed.emptyContent (kind : ContainerKind) :
    (heap.allocContent kind.emptyContent).2.Closed := by
  refine closed.alloc ?_
  intro w hw
  cases kind <;> exact absurd hw List.not_mem_nil

theorem Closed.vivifyUndef {kind : ContainerKind} {container : Value}
    (h : heap.vivifyUndef v kind = some (container, heap')) : heap'.Closed := by
  unfold Heap.vivifyUndef at h
  split at h
  · obtain ⟨rfl, rfl⟩ := Prod.mk.inj (Option.some.inj h)
    exact (closed.emptyContent kind).assign (heap.gave_alloc ⟨kind.emptyContent, none⟩ heap.gave_nil)
  · exact absurd h (by simp)

theorem Closed.globVivify (kind : ContainerKind) : (heap.globVivify v kind).2.Closed := by
  unfold Heap.globVivify
  split
  · exact closed
  · next slots hslots =>
    split
    · exact closed
    · have hcontainer := heap.gave_alloc ⟨kind.emptyContent, none⟩ (closed.slots hslots)
      exact (closed.emptyContent kind).setSlots
        (hcontainer.subset (kind.filled_fillSlot_subset slots _))

theorem Closed.globSet {w : Value} (hw : w.id < heap.size) : (heap.globSet v w).Closed := by
  unfold Heap.globSet
  split
  · next slots hslots _ =>
    refine closed.setSlots (((closed.slots hslots).cons hw).subset ?_)
    exact slots.filled_code_subset w
  · next slots hslots _ =>
    refine closed.setSlots (((closed.slots hslots).cons hw).subset ?_)
    exact slots.filled_handle_subset w
  · exact closed

/-- A copy refers to copies, which stand after the old bodies, and to old bodies. -/
theorem Closed.clone (order : HashOrder) (hops : Nat) : (heap.clone order v hops).2.Closed := by
  have hnumbered := (heap.tour_progress order v hops).numbered
  have hsize := heap.size_clone order v hops
  have himage : ∀ u : Value, u.id < heap.size →
      ((heap.tour order v hops).image heap.size u).id < (heap.clone order v hops).2.size := by
    intro u hu
    unfold Tour.image
    split
    · next number hnumber =>
      have hlt := hnumbered.number_lt hnumber
      rw [hsize]
      exact Nat.add_lt_add_left hlt _
    · exact Nat.lt_of_lt_of_le hu (heap.evolves_clone order v hops).size
  refine closed_of_fits fun w hw => ?_
  by_cases hold : w.id < heap.size
  · rw [content, body_clone_old hold]
    exact Gave.evolves (closed.fits w) (heap.evolves_clone order v hops)
  · -- The copy that was made at the visit with this number.
    obtain ⟨n, hn⟩ : ∃ n, w = ⟨heap.size + n⟩ := ⟨w.id - heap.size, by cases w; simp_all⟩
    have hvisit : n < (heap.tour order v hops).visits.size := by
      rw [hn, hsize] at hw
      exact Nat.lt_of_add_lt_add_left hw
    have hbody := body_clone_copy (Array.getElem?_eq_getElem hvisit)
    rw [hn, content, hbody]
    intro x hx
    obtain ⟨u, hu, rfl | rfl⟩ := Tour.handles_copyContent hx
    · exact Gave.evolves (closed.fits _) (heap.evolves_clone order v hops) _ hu
    · exact himage u (closed.fits _ u hu)

end Operations

/-! ## Snapshots -/

end Heap

/-- The handles that a snapshot holds. -/
def Snapshot.handles : Snapshot → List Value
  | .scalar _ datum _ => datum.target?.toList
  | .array _ items => items.toList
  | .hash _ entries => entries.values
  | .glob _ slots => slots.filled
  | .whole _ body => body.content.handles
  | .element _ _ previous => previous.toList

namespace Heap

variable {heap : Heap} (closed : heap.Closed)
include closed

/-- Localizing empties the value, and the snapshot takes over the handles. -/
theorem Closed.localize (v : Value) :
    (heap.localize v).2.Closed ∧ heap.Gave (heap.localize v).1.handles := by
  have hfits := closed.fits v
  unfold Heap.localize
  split
  · next h =>
    rw [h] at hfits
    exact ⟨closed.assign heap.gave_nil, hfits⟩
  · next h =>
    rw [h] at hfits
    exact ⟨closed.setItems heap.gave_nil, hfits⟩
  · next h =>
    rw [h] at hfits
    exact ⟨closed.setEntries heap.gave_nil, hfits⟩
  · next h =>
    rw [h] at hfits
    exact ⟨closed.setSlots heap.gave_nil, hfits⟩
  · exact ⟨closed, hfits⟩
  · exact ⟨closed, hfits⟩
  · exact ⟨closed, hfits⟩

theorem Closed.localizeElement {hash cell : Value} {key : String} {snapshot : Snapshot}
    {heap' : Heap} (h : heap.localizeElement hash key = .ok ((snapshot, cell), heap')) :
    heap'.Closed ∧ heap.Gave snapshot.handles := by
  unfold Heap.localizeElement at h
  split at h
  · exact absurd h (by simp)
  · next entries hentries =>
    obtain ⟨⟨rfl, -⟩, rfl⟩ := by simpa using h
    have hgave := closed.entries hentries
    have hfresh : (heap.newScalar .undef).2.Closed := closed.newScalar heap.gave_nil
    refine ⟨hfresh.setEntries ?_, ?_⟩
    · exact (heap.gave_newScalar .undef hgave).subset (Table.values_insert_subset _ _ _)
    · intro w hw
      exact hgave w (Table.mem_values_of_get? (Option.mem_toList.1 hw))

/-- Restoring gives the handles back. -/
theorem Closed.restore {snapshot : Snapshot} (fits : heap.Gave snapshot.handles) :
    (snapshot.restore heap).Closed := by
  cases snapshot with
  | scalar v datum position => exact (closed.assign fits).setPosition position
  | array v items => exact closed.setItems fits
  | hash v entries => exact closed.setEntries fits
  | glob v slots => exact closed.setSlots fits
  | whole v body => exact closed.setBody fits
  | element v key previous =>
    simp only [Snapshot.restore]
    split
    · next entries cell hentries =>
      have hcell : cell.id < heap.size := fits cell (by simp [Snapshot.handles])
      exact closed.setEntries
        (((closed.entries hentries).cons hcell).subset (Table.values_insert_subset _ _ _))
    · next entries hentries =>
      exact closed.setEntries
        ((closed.entries hentries).subset (Table.values_erase_subset _ _))
    · exact closed

end Heap

/-! ## Heaps made by operations -/

namespace Heap

/-- The heaps that come into being by operations on the empty one. An operation is only given handles
that the heap gave out, and snapshots that hold such handles only. -/
inductive Made : Heap → Prop where
  | empty : Made .empty
  | alloc {heap : Heap} (made : Made heap) {content : Content} (fits : content.Fits heap) :
    Made (heap.allocContent content).2
  | newArray {heap : Heap} (made : Made heap) {data : List Datum}
    (fits : ∀ datum ∈ data, heap.Gave datum.target?.toList) : Made (heap.newArray data).2
  | newHash {heap : Heap} (made : Made heap) {pairs : List (String × Datum)}
    (fits : ∀ pair ∈ pairs, heap.Gave pair.2.target?.toList) : Made (heap.newHash pairs).2
  | clone {heap : Heap} (made : Made heap) (order : HashOrder) (v : Value) (hops : Nat) :
      Made (heap.clone order v hops).2
  | assign {heap : Heap} (made : Made heap) (v : Value) {datum : Datum}
    (fits : heap.Gave datum.target?.toList) : Made (heap.assign v datum)
  | setPosition {heap : Heap} (made : Made heap) (v : Value) (position : Option Nat) :
    Made (heap.setPosition v position)
  | undefine {heap : Heap} (made : Made heap) (v : Value) : Made (heap.undefine v).2
  | assignArray {heap : Heap} (made : Made heap) (v : Value) {data : List Datum}
    (fits : ∀ datum ∈ data, heap.Gave datum.target?.toList) : Made (heap.assignArray v data)
  | assignHash {heap : Heap} (made : Made heap) (v : Value) {pairs : List (String × Datum)}
    (fits : ∀ pair ∈ pairs, heap.Gave pair.2.target?.toList) : Made (heap.assignHash v pairs)
  | arrayElement {heap : Heap} (made : Made heap) (v : Value) (index : Nat) :
    Made (heap.arrayElement v index).2
  | push {heap : Heap} (made : Made heap) (v : Value) {datum : Datum}
    (fits : heap.Gave datum.target?.toList) : Made (heap.push v datum)
  | pop {heap : Heap} (made : Made heap) (v : Value) : Made (heap.pop v).2
  | clear {heap : Heap} (made : Made heap) (v : Value) : Made (heap.clear v)
  | hashElement {heap : Heap} (made : Made heap) (v : Value) (key : String) :
    Made (heap.hashElement v key).2
  | hashInsert {heap : Heap} (made : Made heap) (v : Value) (key : String) {datum : Datum}
    (fits : heap.Gave datum.target?.toList) : Made (heap.hashInsert v key datum)
  | hashRemove {heap : Heap} (made : Made heap) (v : Value) (key : String) :
    Made (heap.hashRemove v key).2
  | vivifyUndef {heap heap' : Heap} (made : Made heap) {v container : Value} {kind : ContainerKind}
    (h : heap.vivifyUndef v kind = some (container, heap')) : Made heap'
  | globVivify {heap : Heap} (made : Made heap) (v : Value) (kind : ContainerKind) :
    Made (heap.globVivify v kind).2
  | globSet {heap : Heap} (made : Made heap) (v : Value) {content : Value}
    (fits : content.id < heap.size) : Made (heap.globSet v content)
  | setBlessing {heap : Heap} (made : Made heap) (v : Value) (blessing : Option StashId) :
    Made (heap.setBlessing v blessing)
  | localize {heap : Heap} (made : Made heap) (v : Value) : Made (heap.localize v).2
  | localizeElement {heap heap' : Heap} (made : Made heap) {hash cell : Value} {key : String}
    {snapshot : Snapshot} (h : heap.localizeElement hash key = .ok ((snapshot, cell), heap')) :
    Made heap'
  | restore {heap : Heap} (made : Made heap) {snapshot : Snapshot}
    (fits : heap.Gave snapshot.handles) : Made (snapshot.restore heap)

/-- **Operations make closed heaps only.** -/
theorem Made.closed {heap : Heap} (made : heap.Made) : heap.Closed := by
  induction made with
  | empty => exact closed_empty
  | alloc _ fits ih => exact ih.alloc fits
  | newArray _ fits ih =>
    obtain ⟨hclosed, hcells⟩ := ih.newCells fits
    exact hclosed.alloc hcells
  | newHash _ fits ih =>
    obtain ⟨hclosed, hcells⟩ := ih.newEntries (gave_empty _) fits
    exact hclosed.alloc hcells
  | clone _ order v hops ih => exact ih.clone order hops
  | assign _ v fits ih => exact ih.assign fits
  | setPosition _ v position ih => exact ih.setPosition position
  | undefine _ v ih => exact ih.undefine
  | assignArray _ v fits ih => exact ih.assignArray fits
  | assignHash _ v fits ih => exact ih.assignHash fits
  | arrayElement _ v index ih => exact ih.arrayElement index
  | push _ v fits ih => exact ih.push fits
  | pop _ v ih => exact ih.pop
  | clear _ v ih => exact ih.setItems (gave_nil _)
  | hashElement _ v key ih => exact ih.hashElement key
  | hashInsert _ v key fits ih => exact ih.hashInsert key fits
  | hashRemove _ v key ih => exact ih.hashRemove key
  | vivifyUndef _ h ih => exact ih.vivifyUndef h
  | globVivify _ v kind ih => exact ih.globVivify kind
  | globSet _ v fits ih => exact ih.globSet fits
  | setBlessing _ v blessing ih => exact ih.setBody (ih.fits v)
  | localize _ v ih => exact (ih.localize v).1
  | localizeElement _ h ih => exact (ih.localizeElement h).1
  | restore _ fits ih => exact ih.restore fits

end Heap

end DynamicValues
