import DynamicValues.Proofs.Heap.Copies
import DynamicValues.Proofs.Heap.Evolve
import Mathlib.Algebra.Order.Group.Multiset

/-!
# Cells and who holds them

The elements of an array and the values of a hash are bodies like all others. Nothing in their form
says that they are scalars, and nothing that one of them does not stand in two places.

`Heap.cells` counts the cells of all containers, so that a cell in two places counts twice. Besides
there may be cells *at hand*: taken out of one container and not yet put into another, fresh ones, or
ones that a snapshot keeps. `Heap.Accounts` says of a change that all cells are accounted for: those
that are in the heap or at hand after it were so before, or are fresh scalars. One that leaves out a
cell is fine, one that makes two places of one is not. What an operation does is put together from
four such changes:

* a body is added, with cells from at hand (`accounts_alloc`);
* a scalar is added and is at hand (`accounts_newScalar`);
* a body is replaced, the old cells come to hand and the new ones are taken from there
  (`accounts_setBody`);
* bodies are copied (`accounts_clone`).

If all cells are scalars and none counts twice, the heap is **owned**, and that is kept by every
change that accounts for its cells (`Accounts.owned`).
-/

set_option autoImplicit false

namespace DynamicValues

/-! ## The cells of a content -/

/-- The cells that a content holds. -/
def Content.cells : Content → List Value
  | .array items => items.toList
  | .hash entries => entries.values
  | _ => []

namespace Table

variable {α : Type}

theorem lookupEntry_eq_none {key : String} {entries : List (String × α)}
    (h : ∀ entry ∈ entries, entry.1 ≠ key) : lookupEntry key entries = none := by
  induction entries with
  | nil => rfl
  | cons entry entries ih =>
    rw [lookupEntry, if_neg (h entry List.mem_cons_self)]
    exact ih fun other hother => h other (List.mem_cons_of_mem _ hother)

/-- A value that goes into a table is one more there, or takes the place of the one that comes out. -/
theorem values_insert_add (table : Table α) (key : String) (value : α) :
    ((table.insert key value).values : Multiset α) + (table.get? key).toList =
      value ::ₘ table.values := by
  obtain ⟨entries, ascending⟩ := table
  simp only [insert, values, get?]
  induction entries with
  | nil => rfl
  | cons entry entries ih =>
    obtain ⟨k, old⟩ := entry
    obtain ⟨hlast, hrest⟩ := List.pairwise_cons.1 ascending
    rw [insertEntry, lookupEntry]
    split
    · next hlt =>
      -- All keys of the table come after this one.
      have hnone : lookupEntry key entries = none := by
        refine lookupEntry_eq_none fun entry hentry heq => ?_
        have hlater : key < entry.1 := String.lt_trans hlt (hlast entry hentry)
        rw [heq] at hlater
        exact String.lt_irrefl key hlater
      have hne : k ≠ key := fun heq => String.lt_irrefl key (heq ▸ hlt)
      rw [if_neg hne, hnone]
      exact add_zero _
    · split
      · rw [List.map_cons, List.map_cons, ← Multiset.cons_coe, ← Multiset.cons_coe,
          Multiset.cons_add, Option.toList_some, Multiset.coe_singleton, add_comm,
          Multiset.singleton_add]
      · rw [List.map_cons, List.map_cons, ← Multiset.cons_coe, ← Multiset.cons_coe,
          Multiset.cons_add, ih hrest, Multiset.cons_swap]

theorem values_insert_le (table : Table α) (key : String) (value : α) :
    ((table.insert key value).values : Multiset α) ≤ value ::ₘ table.values := by
  rw [← table.values_insert_add key value]
  exact Multiset.le_add_right _ _

theorem values_erase_le (table : Table α) (key : String) :
    ((table.erase key).values : Multiset α) ≤ table.values :=
  Multiset.coe_le.2 (List.Sublist.map Prod.snd List.filter_sublist).subperm

end Table

theorem Tour.cells_copyContent (tour : Tour) (size hops : Nat) (content : Content) :
    (tour.copyContent size hops content).cells = content.cells.map (tour.image size) := by
  cases content with
  | scalar datum position => cases datum <;> rfl
  | array items => simp [copyContent, Content.cells]
  | hash entries => simp [copyContent, Content.cells]
  | code | glob | handle | regex => rfl

namespace Heap

variable {heap heap' heap'' : Heap} {held held' held'' : Multiset Value} {v w c : Value}

/-! ## The cells of a heap -/

/-- The cells of all arrays and hashes, each as often as it stands in one. -/
def cells (heap : Heap) : Multiset Value :=
  heap.bodies.toList.flatMap fun body => body.content.cells

theorem cells_alloc (heap : Heap) (body : Body) :
    (heap.alloc body).2.cells = heap.cells + body.content.cells := by
  simp [cells, alloc]

/-- Replacing a part of a list changes what is gathered from it by what the two parts give. -/
theorem flatMap_set_add {α β : Type} (f : α → List β) (l : List α) (i : Nat) (hi : i < l.length)
    (a : α) : ((l.set i a).flatMap f : Multiset β) + f l[i] = (l.flatMap f : Multiset β) + f a := by
  induction l generalizing i with
  | nil => exact absurd hi (Nat.not_lt_zero i)
  | cons x l ih =>
    cases i with
    | zero =>
      simp only [List.set_cons_zero, List.flatMap_cons, List.getElem_cons_zero, ← Multiset.coe_add]
      ac_rfl
    | succ i =>
      have hrest := ih i (Nat.lt_of_succ_lt_succ hi)
      simp only [List.set_cons_succ, List.flatMap_cons, List.getElem_cons_succ, ← Multiset.coe_add,
        add_assoc]
      rw [hrest]

/-- The old cells come out of a body, and the new ones go in. -/
theorem cells_setBody_add_le (heap : Heap) (v : Value) (body : Body) :
    (heap.setBody v body).cells + (heap.content v).cells ≤ heap.cells + body.content.cells := by
  by_cases hlt : v.id < heap.bodies.size
  · have hcontent : heap.content v = heap.bodies.toList[v.id].content := by
      simp [content, Heap.body, hlt]
    rw [hcontent, cells, setBody, Array.toList_setIfInBounds]
    exact le_of_eq (flatMap_set_add _ _ _ hlt body)
  · -- There is no such body, and what is found instead of it holds nothing.
    have hge : heap.size ≤ v.id := Nat.le_of_not_lt hlt
    rw [content, body_of_size_le hge, setBody_of_size_le hge]
    exact add_le_add_right (Multiset.zero_le _) _

theorem lt_size_of_mem_cells (h : c ∈ (heap.content v).cells) : v.id < heap.size := by
  refine lt_size_of_kind_ne_scalar fun hkind => ?_
  obtain ⟨datum, position, hcontent⟩ := Content.eq_scalar_of_kind hkind
  rw [hcontent] at h
  exact absurd h List.not_mem_nil

/-- A container is one of the bodies. -/
theorem exists_body_of_mem_cells (h : c ∈ (heap.content v).cells) :
    ∃ body, heap.bodies.toList[v.id]? = some body ∧ c ∈ body.content.cells := by
  have hlt : v.id < heap.bodies.size := lt_size_of_mem_cells h
  refine ⟨heap.body v, ?_, h⟩
  simp [body, hlt]

/-! ## Owned heaps -/

/-- A scalar of the heap. -/
structure IsScalar (heap : Heap) (v : Value) : Prop where
  lt_size : v.id < heap.size
  kind_eq : heap.kind v = .scalar

theorem IsScalar.evolves (h : heap.IsScalar v) (evolves : heap.Evolves heap') : heap'.IsScalar v where
  lt_size := Nat.lt_of_lt_of_le h.lt_size evolves.size
  kind_eq := (evolves.kind v h.lt_size).trans h.kind_eq

/-- With these cells at hand, no cell is in two places, and all of them are scalars. -/
structure Owned (heap : Heap) (held : Multiset Value) : Prop where
  nodup : (heap.cells + held).Nodup
  scalar : ∀ c ∈ heap.cells + held, heap.IsScalar c

theorem owned_empty : empty.Owned 0 where
  nodup := Multiset.nodup_zero
  scalar := fun _ hc => absurd hc (Multiset.notMem_zero _)

theorem mem_cells_of_content (h : c ∈ (heap.content v).cells) : c ∈ heap.cells := by
  obtain ⟨body, hbody, hc⟩ := exists_body_of_mem_cells h
  exact Multiset.mem_coe.2 (List.mem_flatMap.2 ⟨body, List.mem_of_getElem? hbody, hc⟩)

namespace Owned

variable (owned : heap.Owned held)
include owned

theorem nodup_bodies :
    (∀ body ∈ heap.bodies.toList, body.content.cells.Nodup) ∧
      heap.bodies.toList.Pairwise fun a b => a.content.cells.Disjoint b.content.cells :=
  List.nodup_flatMap.1 (Multiset.coe_nodup.1 (Multiset.nodup_add.1 owned.nodup).1)

theorem isScalar (hc : c ∈ (heap.content v).cells) : heap.IsScalar c :=
  owned.scalar c (Multiset.mem_add.2 (.inl (mem_cells_of_content hc)))

/-- A cell stands in a container once. -/
theorem nodup_content (v : Value) : (heap.content v).cells.Nodup := by
  by_cases hlt : v.id < heap.bodies.size
  · refine owned.nodup_bodies.1 (heap.body v) (Array.mem_toList_iff.2 ?_)
    simp [body, hlt]
  · have hnone : (heap.content v).cells = [] :=
      List.eq_nil_iff_forall_not_mem.2 fun c hc => hlt (lt_size_of_mem_cells hc)
    rw [hnone]
    exact List.nodup_nil

/-- A cell stands in one container only. -/
theorem holder_eq (hv : c ∈ (heap.content v).cells) (hw : c ∈ (heap.content w).cells) : v = w := by
  obtain ⟨body, hbody, hc⟩ := exists_body_of_mem_cells hv
  obtain ⟨other, hother, hc'⟩ := exists_body_of_mem_cells hw
  obtain ⟨hlt, rfl⟩ := List.getElem?_eq_some_iff.1 hbody
  obtain ⟨hlt', rfl⟩ := List.getElem?_eq_some_iff.1 hother
  have hdisjoint := List.pairwise_iff_getElem.1 owned.nodup_bodies.2
  rcases Nat.lt_trichotomy v.id w.id with h | h | h
  · exact absurd hc' (hdisjoint _ _ hlt hlt' h hc)
  · exact congrArg Value.mk h
  · exact absurd hc (hdisjoint _ _ hlt' hlt h hc')

end Owned

/-! ## Accounting for cells -/

/-- Scalars that were added to the heap. -/
structure Fresh (heap heap' : Heap) (fresh : Multiset Value) : Prop where
  evolves : heap.Evolves heap'
  nodup : fresh.Nodup
  new : ∀ c ∈ fresh, heap.size ≤ c.id
  scalar : ∀ c ∈ fresh, heap'.IsScalar c

theorem Fresh.none (evolves : heap.Evolves heap') : heap.Fresh heap' 0 where
  evolves := evolves
  nodup := Multiset.nodup_zero
  new := fun _ hc => absurd hc (Multiset.notMem_zero _)
  scalar := fun _ hc => absurd hc (Multiset.notMem_zero _)

theorem Fresh.trans {fresh fresh' : Multiset Value} (h : heap.Fresh heap' fresh)
    (h' : heap'.Fresh heap'' fresh') : heap.Fresh heap'' (fresh + fresh') where
  evolves := h.evolves.trans h'.evolves
  nodup := by
    refine Multiset.nodup_add.2 ⟨h.nodup, h'.nodup, Multiset.disjoint_left.2 fun hc hc' => ?_⟩
    exact Nat.not_lt.2 (h'.new _ hc') (h.scalar _ hc).lt_size
  new := by
    intro c hc
    rcases Multiset.mem_add.1 hc with hc | hc
    · exact h.new c hc
    · exact Nat.le_trans h.evolves.size (h'.new c hc)
  scalar := by
    intro c hc
    rcases Multiset.mem_add.1 hc with hc | hc
    · exact (h.scalar c hc).evolves h'.evolves
    · exact h'.scalar c hc

/-- The heap changes, and so do the cells at hand. All of those that there are after it were there
before or are fresh scalars. -/
def Accounts (heap : Heap) (held : Multiset Value) (heap' : Heap) (held' : Multiset Value) : Prop :=
  ∃ fresh, heap.Fresh heap' fresh ∧ heap'.cells + held' ≤ heap.cells + held + fresh

namespace Accounts

theorem evolves (h : heap.Accounts held heap' held') : heap.Evolves heap' := by
  obtain ⟨fresh, hfresh, -⟩ := h
  exact hfresh.evolves

theorem refl (heap : Heap) (held : Multiset Value) : heap.Accounts held heap held :=
  ⟨0, .none (.refl heap), by rw [add_zero]⟩

theorem trans (h : heap.Accounts held heap' held') (h' : heap'.Accounts held' heap'' held'') :
    heap.Accounts held heap'' held'' := by
  obtain ⟨fresh, hfresh, hle⟩ := h
  obtain ⟨fresh', hfresh', hle'⟩ := h'
  refine ⟨fresh + fresh', hfresh.trans hfresh', hle'.trans ?_⟩
  rw [← add_assoc]
  exact add_le_add_left hle fresh'

/-- Cells at hand can be let go. -/
theorem drop (h : heap.Accounts held heap' held') (le : held'' ≤ held') :
    heap.Accounts held heap' held'' := by
  obtain ⟨fresh, hfresh, hle⟩ := h
  exact ⟨fresh, hfresh, (add_le_add_right le _).trans hle⟩

/-- **A heap stays owned as long as all cells are accounted for.** -/
theorem owned (h : heap.Accounts held heap' held') (owned : heap.Owned held) :
    heap'.Owned held' := by
  obtain ⟨fresh, hfresh, hle⟩ := h
  constructor
  case nodup =>
    refine Multiset.nodup_of_le hle (Multiset.nodup_add.2 ⟨owned.nodup, hfresh.nodup, ?_⟩)
    -- What was there before has a handle from before.
    refine Multiset.disjoint_left.2 fun hc hc' => ?_
    exact Nat.not_lt.2 (hfresh.new _ hc') (owned.scalar _ hc).lt_size
  case scalar =>
    intro c hc
    rcases Multiset.mem_add.1 (Multiset.mem_of_le hle hc) with hold | hnew
    · exact (owned.scalar c hold).evolves hfresh.evolves
    · exact hfresh.scalar c hnew

end Accounts

/-! ## The four changes -/

theorem accounts_alloc (heap : Heap) (body : Body) (held : Multiset Value) :
    heap.Accounts (held + body.content.cells) (heap.alloc body).2 held := by
  refine ⟨0, .none (.alloc heap body), le_of_eq ?_⟩
  rw [cells_alloc]
  ac_rfl

theorem accounts_newScalar (heap : Heap) (datum : Datum) (held : Multiset Value) :
    heap.Accounts held (heap.newScalar datum).2 ((heap.newScalar datum).1 ::ₘ held) := by
  refine ⟨{(heap.newScalar datum).1}, ?_, ?_⟩
  · constructor
    case evolves => exact heap.evolves_newScalar datum
    case nodup => exact Multiset.nodup_singleton _
    case new =>
      intro c hc
      rw [Multiset.mem_singleton.1 hc]
      exact Nat.le_refl _
    case scalar =>
      intro c hc
      rw [Multiset.mem_singleton.1 hc]
      refine ⟨?_, ?_⟩
      · rw [newScalar, allocContent, size_alloc]
        exact Nat.lt_succ_self _
      · rw [newScalar, allocContent, kind, content, body_alloc_new]
        rfl
  · have hcells : (heap.newScalar datum).2.cells = heap.cells := by
      rw [newScalar, allocContent, cells_alloc]
      exact add_zero _
    rw [hcells, ← Multiset.singleton_add]
    exact le_of_eq (by ac_rfl)

/-- A body is replaced: the new cells and those that stay at hand are the old ones and those at hand
before. -/
theorem accounts_setBody {body : Body} (kind_eq : body.content.kind = heap.kind v)
    (le : (body.content.cells : Multiset Value) + held' ≤ (heap.content v).cells + held) :
    heap.Accounts held (heap.setBody v body) held' := by
  refine ⟨0, .none (.setBody kind_eq), ?_⟩
  have hbody := heap.cells_setBody_add_le v body
  refine le_of_add_le_add_right (?_ : _ + ((heap.content v).cells : Multiset Value) ≤ _)
  calc (heap.setBody v body).cells + held' + (heap.content v).cells
      = (heap.setBody v body).cells + (heap.content v).cells + held' := by ac_rfl
    _ ≤ heap.cells + body.content.cells + held' := add_le_add_left hbody held'
    _ = heap.cells + (body.content.cells + held') := add_assoc _ _ _
    _ ≤ heap.cells + ((heap.content v).cells + held) := add_le_add_right le _
    _ = heap.cells + held + 0 + (heap.content v).cells := by rw [add_zero]; ac_rfl

/-! ### Copies -/

section Clone

variable {order : HashOrder} {x : Value} {n left hops : Nat}

/-- The cells of all containers that a copy visits. -/
def visitedCells (heap : Heap) (order : HashOrder) (v : Value) (hops : Nat) : List Value :=
  (heap.tour order v hops).visits.toList.flatMap fun visit => (heap.content visit.1).cells

theorem cells_clone (heap : Heap) (order : HashOrder) (v : Value) (hops : Nat) :
    (heap.clone order v hops).2.cells = heap.cells +
      ((heap.visitedCells order v hops).map
        ((heap.tour order v hops).image heap.size) : List Value) := by
  simp only [cells, clone, visitedCells, Tour.copies, Array.toList_append, Array.toList_map,
    List.flatMap_append, List.flatMap_map, Tour.cells_copyContent, List.map_flatMap,
    Multiset.coe_add]
  rfl

/-- A tour that visits a container goes on to its cells, however few hops are left. -/
theorem mem_successors_of_mem_cells (h : c ∈ (heap.content x).cells) :
    (c, left) ∈ heap.successors order x left := by
  refine mem_successors_iff.2 ?_
  rw [kind]
  cases hcontent : heap.content x with
  | array items =>
    rw [hcontent] at h
    exact ⟨h, rfl⟩
  | hash entries =>
    rw [hcontent] at h
    exact ⟨h, rfl⟩
  | scalar | code | glob | handle | regex =>
    rw [hcontent] at h
    exact absurd h List.not_mem_nil

/-- So each cell of a container that is copied is copied with it. -/
theorem Owned.copies_cell (owned : heap.Owned held)
    (hvisit : (heap.tour order v hops).visits[n]? = some (x, left))
    (hc : c ∈ (heap.content x).cells) :
    heap.Copies order v hops c ((heap.tour order v hops).image heap.size c) := by
  have hmet : (heap.tour order v hops).Met c := by
    rcases (heap.tour_progress order v hops).covered hvisit (mem_successors_of_mem_cells hc) with
      hmet | hpending
    · exact hmet
    · exact absurd hpending List.not_mem_nil
  obtain ⟨y, hcopy⟩ := exists_copies (owned.isScalar hc).lt_size hmet
  rw [hcopy.image_eq]
  exact hcopy

theorem Owned.copies_visitedCells (owned : heap.Owned held)
    (h : c ∈ heap.visitedCells order v hops) :
    heap.Copies order v hops c ((heap.tour order v hops).image heap.size c) := by
  obtain ⟨⟨x, left⟩, hvisit, hc⟩ := List.mem_flatMap.1 h
  obtain ⟨n, hn⟩ := List.getElem?_of_mem hvisit
  exact owned.copies_cell (Array.getElem?_toList.symm.trans hn) hc

/-- No container is visited twice, so no cell is met in two of them. -/
theorem Owned.nodup_visitedCells (owned : heap.Owned held) :
    (heap.visitedCells order v hops).Nodup := by
  have hnumbered := (heap.tour_progress order v hops).numbered
  refine List.nodup_flatMap.2 ⟨fun visit _ => owned.nodup_content visit.1, ?_⟩
  refine List.pairwise_iff_getElem.2 fun i j hi hj hlt => ?_
  intro c hc hc'
  have hsame := owned.holder_eq hc hc'
  have hnumber {k : Nat} (hk : k < (heap.tour order v hops).visits.toList.length) :
      (heap.tour order v hops).numbers[((heap.tour order v hops).visits.toList[k]).1.id]? =
        some (some k) :=
    (hnumbered.number_iff _ k).2 ⟨_, by rw [Array.getElem_toList]; exact Array.getElem?_eq_getElem _⟩
  have hi' := hnumber hi
  rw [hsame, hnumber hj] at hi'
  have : j = i := by simpa using hi'
  omega

/-- **A copy has cells of its own**, one for each that it copies. -/
theorem Owned.accounts_clone (owned : heap.Owned held) (order : HashOrder) (v : Value)
    (hops : Nat) :
    heap.Accounts held (heap.clone order v hops).2 held := by
  refine ⟨((heap.visitedCells order v hops).map
    ((heap.tour order v hops).image heap.size) : List Value), ?_, ?_⟩
  · constructor
    case evolves => exact heap.evolves_clone order v hops
    case nodup =>
      refine Multiset.coe_nodup.2 (owned.nodup_visitedCells.map_on fun c hc d hd heq => ?_)
      -- One cell is not the copy of two.
      have hcopy := owned.copies_visitedCells hd
      rw [← heq] at hcopy
      exact (owned.copies_visitedCells hc).left_unique hcopy
    case new =>
      intro y hy
      obtain ⟨c, hc, rfl⟩ := List.mem_map.1 (Multiset.mem_coe.1 hy)
      exact (owned.copies_visitedCells hc).copy_ge
    case scalar =>
      intro y hy
      obtain ⟨c, hc, rfl⟩ := List.mem_map.1 (Multiset.mem_coe.1 hy)
      have hcopy := owned.copies_visitedCells hc
      obtain ⟨_, -, hcell⟩ := List.mem_flatMap.1 hc
      exact ⟨hcopy.copy_lt, hcopy.kind_eq.trans (owned.isScalar hcell).kind_eq⟩
  · rw [cells_clone]
    exact le_of_eq (by ac_rfl)

end Clone

end Heap

end DynamicValues
