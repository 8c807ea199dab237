import DynamicValues.Proofs.Heap.Cells
import DynamicValues.Proofs.Heap.Fits

/-!
# Filling containers with fresh cells

Making a value adds bodies to a heap and leaves those alone that are there: the later heap `Extends`
the earlier one. What a container is filled with is told in these terms. `Heap.Lists` says that cells
hold data in order, and `Heap.Tabulates` that the cells of a table hold what pairs of keys and data
come to, where of equal keys the last one counts. In both cases all cells are new and no two are the
same.
-/

set_option autoImplicit false

namespace DynamicValues

/-- What a fresh cell is. -/
def Body.ofDatum (datum : Datum) : Body := { content := .scalar datum none }

namespace Heap

variable {heap heap' heap'' : Heap} {v : Value} {first : Nat} {datum : Datum}

/-! ## Longer heaps -/

/-- The bodies of the first heap are in the second one as they were. -/
structure Extends (heap heap' : Heap) : Prop where
  size : heap.size ≤ heap'.size
  body : ∀ v : Value, v.id < heap.size → heap'.body v = heap.body v

namespace Extends

theorem refl (heap : Heap) : heap.Extends heap := ⟨Nat.le_refl _, fun _ _ => rfl⟩

theorem trans (h : heap.Extends heap') (h' : heap'.Extends heap'') : heap.Extends heap'' where
  size := Nat.le_trans h.size h'.size
  body := by
    intro v hv
    rw [h'.body v (Nat.lt_of_lt_of_le hv h.size), h.body v hv]

theorem alloc (heap : Heap) (body : Body) : heap.Extends (heap.alloc body).2 where
  size := by
    rw [size_alloc]
    exact Nat.le_succ _
  body := fun _ hv => body_alloc_old hv

theorem newScalar (heap : Heap) (datum : Datum) : heap.Extends (heap.newScalar datum).2 :=
  alloc heap _

theorem newCells (heap : Heap) (data : List Datum) : heap.Extends (heap.newCells data).2 := by
  induction data generalizing heap with
  | nil => exact refl heap
  | cons datum data ih => exact (newScalar heap datum).trans (ih _)

theorem newEntries (heap : Heap) (table : Table Value) (pairs : List (String × Datum)) :
    heap.Extends (heap.newEntries table pairs).2 := by
  induction pairs generalizing heap table with
  | nil => exact refl heap
  | cons pair pairs ih => exact (newScalar heap pair.2).trans (ih _ _)

theorem growItems (heap : Heap) (items : Array Value) (count : Nat) :
    heap.Extends (heap.growItems items count).2 := by
  induction count generalizing heap items with
  | zero => exact .refl heap
  | succ count ih => exact (newScalar heap .undef).trans (ih _ _)

theorem content (h : heap.Extends heap') (hv : v.id < heap.size) :
    heap'.content v = heap.content v := by
  rw [Heap.content, h.body v hv, Heap.content]

theorem kind (h : heap.Extends heap') (hv : v.id < heap.size) : heap'.kind v = heap.kind v := by
  rw [Heap.kind, h.content hv, Heap.kind]

end Extends

/-! ## One fresh cell -/

theorem body_newScalar (heap : Heap) (datum : Datum) :
    (heap.newScalar datum).2.body (heap.newScalar datum).1 = .ofDatum datum :=
  body_alloc_new heap _

theorem id_newScalar (heap : Heap) (datum : Datum) : (heap.newScalar datum).1.id = heap.size := rfl

@[simp] theorem size_newScalar (heap : Heap) (datum : Datum) :
    (heap.newScalar datum).2.size = heap.size + 1 :=
  size_alloc heap _

/-! ## Cells in order -/

/-- These are different cells, all of them from a number on, that hold these data. -/
structure Lists (heap : Heap) (first : Nat) (cells : List Value) (data : List Datum) : Prop where
  bodies : cells.map heap.body = data.map .ofDatum
  fresh : ∀ c ∈ cells, first ≤ c.id
  given : heap.Gave cells
  nodup : cells.Nodup

/-- The cells go on to hold the data as long as they are not written to. -/
theorem Lists.keep {cells : List Value} {data : List Datum} (h : heap.Lists first cells data)
    (size : heap.size ≤ heap'.size) (same : ∀ c ∈ cells, heap'.body c = heap.body c) :
    heap'.Lists first cells data where
  bodies := by
    rw [← h.bodies]
    exact List.map_congr_left same
  fresh := h.fresh
  given := fun c hc => Nat.lt_of_lt_of_le (h.given c hc) size
  nodup := h.nodup

theorem Lists.mono {cells : List Value} {data : List Datum} {earlier : Nat}
    (h : heap.Lists first cells data) (hle : earlier ≤ first) : heap.Lists earlier cells data :=
  { h with fresh := fun c hc => Nat.le_trans hle (h.fresh c hc) }

theorem lists_newCells (heap : Heap) (data : List Datum) :
    (heap.newCells data).2.Lists heap.size (heap.newCells data).1 data := by
  induction data generalizing heap with
  | nil =>
    constructor
    case bodies => rfl
    case fresh => exact fun c hc => absurd hc List.not_mem_nil
    case given => exact gave_nil _
    case nodup => exact List.nodup_nil
  | cons datum data ih =>
    have hrest := ih (heap.newScalar datum).2
    have hextends := Extends.newCells (heap.newScalar datum).2 data
    have hlt : (heap.newScalar datum).1.id < (heap.newScalar datum).2.size := by
      rw [id_newScalar, size_newScalar]
      exact Nat.lt_succ_self _
    constructor
    case bodies =>
      rw [newCells, List.map_cons, List.map_cons, hrest.bodies, hextends.body _ hlt,
        body_newScalar]
    case fresh =>
      intro c hc
      rcases List.mem_cons.1 hc with rfl | hc
      · exact Nat.le_refl _
      · have hle := hrest.fresh c hc
        rw [size_newScalar] at hle
        exact Nat.le_of_succ_le hle
    case given => exact hrest.given.cons (Nat.lt_of_lt_of_le hlt hextends.size)
    case nodup =>
      -- The others come after the first one.
      refine List.nodup_cons.2 ⟨fun hmem => ?_, hrest.nodup⟩
      exact Nat.not_lt.2 (hrest.fresh _ hmem) hlt

/-! ## Cells by key -/

/-- The table has a cell for each key of the pairs and no others. They are different cells, all of
them from a number on, and each holds the datum of the last pair with its key. -/
structure Tabulates (heap : Heap) (first : Nat) (table : Table Value)
    (pairs : List (String × Datum)) : Prop where
  bodies : ∀ key, (table.get? key).map heap.body = (pairs.reverse.lookup key).map .ofDatum
  fresh : ∀ c ∈ table.values, first ≤ c.id
  given : heap.Gave table.values
  nodup : table.values.Nodup

namespace Tabulates

variable {table : Table Value} {pairs done : List (String × Datum)}

/-- The cells go on to hold the data as long as they are not written to. -/
theorem keep (h : heap.Tabulates first table pairs) (size : heap.size ≤ heap'.size)
    (same : ∀ c ∈ table.values, heap'.body c = heap.body c) :
    heap'.Tabulates first table pairs where
  bodies := by
    intro key
    rw [← h.bodies key]
    cases hcell : table.get? key with
    | none => rfl
    | some c => simp [same c (Table.mem_values_of_get? hcell)]
  fresh := h.fresh
  given := fun c hc => Nat.lt_of_lt_of_le (h.given c hc) size
  nodup := h.nodup

theorem mono {earlier : Nat} (h : heap.Tabulates first table pairs) (hle : earlier ≤ first) :
    heap.Tabulates earlier table pairs :=
  { h with fresh := fun c hc => Nat.le_trans hle (h.fresh c hc) }

theorem empty (heap : Heap) (first : Nat) : heap.Tabulates first .empty [] where
  bodies := fun _ => rfl
  fresh := fun _ hc => absurd hc List.not_mem_nil
  given := gave_empty heap
  nodup := List.nodup_nil

/-- One more pair: its cell comes under its key, in the place of an older one. -/
theorem insert (h : heap.Tabulates first table done) (hfirst : first ≤ heap.size) (key : String)
    (datum : Datum) :
    (heap.newScalar datum).2.Tabulates first (table.insert key (heap.newScalar datum).1)
      (done ++ [(key, datum)]) := by
  have hextends := Extends.newScalar heap datum
  have hold := h.keep hextends.size fun c hc => hextends.body c (h.given c hc)
  constructor
  case bodies =>
    intro other
    rw [List.reverse_append, List.reverse_singleton, List.singleton_append, List.lookup_cons]
    by_cases hkey : other = key
    · subst hkey
      simp [body_newScalar]
    · rw [Table.get?_insert_ne _ _ hkey, hold.bodies other, beq_false_of_ne hkey]
  case fresh =>
    intro c hc
    rcases List.mem_cons.1 (Table.values_insert_subset _ _ _ hc) with rfl | hc
    · exact hfirst
    · exact h.fresh c hc
  case given =>
    exact (gave_newScalar heap datum h.given).subset (Table.values_insert_subset _ _ _)
  case nodup =>
    -- The new cell is none of the old ones, and no cell but this one is put into the table.
    have hnew : (heap.newScalar datum).1 ∉ table.values := by
      intro hmem
      exact Nat.lt_irrefl _ (h.given _ hmem)
    have hall : ((heap.newScalar datum).1 ::ₘ (table.values : Multiset Value)).Nodup :=
      Multiset.nodup_cons.2 ⟨hnew, h.nodup⟩
    exact Multiset.coe_nodup.1 (Multiset.nodup_of_le (table.values_insert_le _ _) hall)

theorem newEntries (h : heap.Tabulates first table done) (hfirst : first ≤ heap.size)
    (pairs : List (String × Datum)) :
    (heap.newEntries table pairs).2.Tabulates first (heap.newEntries table pairs).1
      (done ++ pairs) := by
  induction pairs generalizing heap table done with
  | nil =>
    rw [List.append_nil]
    exact h
  | cons pair pairs ih =>
    obtain ⟨key, datum⟩ := pair
    have hstep := h.insert hfirst key datum
    have hrest := ih hstep (Nat.le_trans hfirst (Extends.newScalar heap datum).size)
    rw [List.append_assoc] at hrest
    exact hrest

end Tabulates

/-- **A table of fresh cells.** -/
theorem tabulates_newEntries (heap : Heap) (pairs : List (String × Datum)) :
    (heap.newEntries .empty pairs).2.Tabulates heap.size (heap.newEntries .empty pairs).1 pairs :=
  (Tabulates.empty heap heap.size).newEntries (Nat.le_refl _) pairs

/-- A fresh hash holds the data of the pairs. -/
theorem tabulates_newHash (heap : Heap) (pairs : List (String × Datum)) :
    ∃ entries, (heap.newHash pairs).2.content (heap.newHash pairs).1 = .hash entries ∧
      (heap.newHash pairs).2.Tabulates heap.size entries pairs := by
  have htable := heap.tabulates_newEntries pairs
  have hlonger := Extends.alloc (heap.newEntries .empty pairs).2
    { content := .hash (heap.newEntries .empty pairs).1 }
  refine ⟨(heap.newEntries .empty pairs).1, congrArg Body.content (body_alloc_new _ _), ?_⟩
  exact htable.keep hlonger.size fun c hc => hlonger.body c (htable.given c hc)

end Heap

end DynamicValues
