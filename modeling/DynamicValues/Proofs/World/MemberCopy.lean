import DynamicValues.Proofs.World.Assigned
import Mathlib.Logic.Relation

/-!
# Copying a container by its members

The members of a container, assigned to one of the same kind, make a copy of it. A walk over a hash
yields each key in front of its cell, and the assignment takes them in pairs again, so the order of the
keys does not show in the result. The cells of the copy are new. What is done to the elements of the
original afterwards stays with the original and with cells that came still later (`Heap.Apart`), so it
never reaches the copy.
-/

set_option autoImplicit false

namespace DynamicValues

variable {heap heap' heap'' start : Heap} {world after : World} {a b c v : Value} {first : Nat}
  {walk : Enumerator}

theorem Table.get?_eq_none_iff {α : Type} {table : Table α} {key : String} :
    table.get? key = none ↔ key ∉ table.keys := by
  obtain ⟨entries, ascending⟩ := table
  simp only [get?, keys]
  clear ascending
  induction entries with
  | nil => simp [lookupEntry]
  | cons entry entries ih =>
    rw [lookupEntry]
    by_cases hkey : entry.1 = key
    · simp [hkey]
    · simp [hkey, Ne.symm hkey, ih]

/-! ## Data in cells -/

/-- The datum of a scalar. -/
def Body.datum? (body : Body) : Option Datum :=
  match body.content with
  | .scalar datum _ => some datum
  | _ => none

namespace Heap

theorem datum?_of_isScalar (h : heap.IsScalar c) : heap.datum? c = some (heap.scalarContent c) := by
  obtain ⟨datum, position, hcontent⟩ := Content.eq_scalar_of_kind h.kind_eq
  unfold datum? scalarContent
  rw [hcontent]

theorem Lists.map_datum? {cells : List Value} {data : List Datum} (h : heap.Lists first cells data) :
    cells.map heap.datum? = data.map some := by
  have hdata := congrArg (List.map Body.datum?) h.bodies
  simp only [List.map_map] at hdata
  exact hdata

theorem Tabulates.map_datum? {table : Table Value} {pairs : List (String × Datum)}
    (h : heap.Tabulates first table pairs) (key : String) :
    (table.get? key).map heap.datum? = (pairs.reverse.lookup key).map some := by
  have hdata := congrArg (Option.map Body.datum?) (h.bodies key)
  simp only [Option.map_map] at hdata
  exact hdata

/-- Two containers of one kind, each in a heap of its own, hold the same data: arrays in the same
order, hashes under the same keys. -/
inductive SameMembers (heap heap' : Heap) : Content → Content → Prop where
  | array {items items' : Array Value}
      (data : items'.toList.map heap'.datum? = items.toList.map heap.datum?) :
      SameMembers heap heap' (.array items) (.array items')
  | hash {entries entries' : Table Value}
      (data : ∀ key, (entries'.get? key).map heap'.datum? = (entries.get? key).map heap.datum?) :
      SameMembers heap heap' (.hash entries) (.hash entries')

end Heap

/-- How many members a walk over a container yields. -/
def Content.memberCount : Content → Nat
  | .array items => items.size
  | .hash entries => 2 * entries.size
  | _ => 0

/-! ## Keys and cells in pairs -/

/-- A key and its datum as two elements of a list. -/
def flattenPairs (pairs : List (String × Datum)) : List Datum :=
  pairs.flatMap fun pair => [.text pair.1, pair.2]

theorem inPairs_flattenPairs (pairs : List (String × Datum)) :
    inPairs (flattenPairs pairs) = pairs.map fun pair => (.text pair.1, pair.2) := by
  induction pairs with
  | nil => rfl
  | cons pair pairs ih => exact congrArg ((Datum.text pair.1, pair.2) :: ·) ih

theorem length_flattenPairs (pairs : List (String × Datum)) :
    (flattenPairs pairs).length = 2 * pairs.length := by
  simp [flattenPairs, Nat.mul_comm]

/-- **Flattened pairs are put together again**, and nothing is amiss. -/
theorem World.keyedPairs_flattenPairs (world : World) (pairs : List (String × Datum)) :
    world.keyedPairs (flattenPairs pairs) = ⟨pairs, []⟩ := by
  have heven : (flattenPairs pairs).length % 2 ≠ 1 := by
    rw [length_flattenPairs]
    omega
  rw [keyedPairs_eq, inPairs_flattenPairs, if_neg heven]
  simp [Function.comp_def, datumText, List.flatMap_map]

/-- The keys that are there, each with what its cell holds. -/
def Heap.entryPairs (heap : Heap) (hash : Value) (keys : List String) : List (String × Datum) :=
  keys.filterMap fun key => (heap.hashGet? hash key).map fun cell => (key, heap.scalarContent cell)

theorem Enumerator.flatMap_entryContents (heap : Heap) (hash : Value) (keys : List String) :
    keys.flatMap (entryContents heap hash) = flattenPairs (heap.entryPairs hash keys) := by
  induction keys with
  | nil => rfl
  | cons key keys ih =>
    rw [List.flatMap_cons, ih]
    unfold entryContents Heap.entryPairs
    rw [List.filterMap_cons]
    cases heap.hashGet? hash key <;> rfl

namespace Heap

theorem length_entryPairs {hash : Value} {keys : List String}
    (there : ∀ key ∈ keys, (heap.hashGet? hash key).isSome) :
    (heap.entryPairs hash keys).length = keys.length := by
  unfold entryPairs
  rw [List.length_filterMap_eq_countP, List.countP_eq_length]
  intro key hkey
  simpa using there key hkey

/-- The order of the keys does not show. -/
theorem lookup_reverse_entryPairs (heap : Heap) (hash : Value) (keys : List String) (key : String) :
    (heap.entryPairs hash keys).reverse.lookup key =
      if key ∈ keys then (heap.hashGet? hash key).map heap.scalarContent else none := by
  have hmem : key ∈ keys ↔ key ∈ keys.reverse := List.mem_reverse.symm
  unfold entryPairs
  rw [← List.filterMap_reverse]
  simp only [hmem]
  clear hmem
  induction keys.reverse with
  | nil => rfl
  | cons k keys ih =>
    rw [List.filterMap_cons]
    by_cases hkey : key = k
    · subst hkey
      cases hcell : heap.hashGet? hash key with
      | some cell => simp
      | none => simp [ih, hcell]
    · cases hcell : heap.hashGet? hash k with
      | some cell => simp [List.lookup_cons, hkey, ih, beq_false_of_ne hkey]
      | none => simp [hkey, ih]

theorem hashGet?_isSome_iff {entries : Table Value} (hcontent : heap.content a = .hash entries)
    {key : String} : (heap.hashGet? a key).isSome ↔ key ∈ entries.keys := by
  rw [hashGet?_of_content hcontent, Option.isSome_iff_ne_none]
  simp [Table.get?_eq_none_iff]

end Heap

/-! ## The members of a container -/

namespace Enumerator

theorem contents_array {items : Array Value} (hcontent : heap.content a = .array items) :
    (array a 0).contents heap = items.toList.map heap.scalarContent := by
  rw [contents, Heap.items?, hcontent]
  rfl

theorem contents_hash (heap : Heap) (hash : Value) (keys : List String) :
    (Enumerator.hash hash keys none).contents heap = flattenPairs (heap.entryPairs hash keys) :=
  flatMap_entryContents heap hash keys

end Enumerator

namespace Heap.Begins

theorem kind_ne (begins : heap.Begins a walk) : heap.kind a ≠ .scalar := by
  cases begins with
  | array hcontent | hash hcontent =>
    rw [kind, hcontent]
    exact fun h => Kind.noConfusion h

theorem fits (begins : heap.Begins a walk) (closed : heap.Closed) : walk.Fits heap := by
  have hlt := lt_size_of_kind_ne_scalar begins.kind_ne
  refine Enumerator.fits_of_closed closed ?_
  cases begins with
  | array | hash => exact heap.gave_nil.cons hlt

theorem length_contents (begins : heap.Begins a walk) :
    (walk.contents heap).length = (heap.content a).memberCount := by
  cases begins with
  | array hcontent =>
    rw [Enumerator.contents_array hcontent, hcontent, List.length_map, Array.length_toList]
    rfl
  | @hash entries keys hcontent perm =>
    have hthere : ∀ key ∈ keys, (heap.hashGet? a key).isSome := fun key hkey =>
      (hashGet?_isSome_iff hcontent).2 (perm.mem_iff.1 hkey)
    rw [Enumerator.contents_hash, length_flattenPairs, length_entryPairs hthere, perm.length_eq,
      hcontent]
    simp [Content.memberCount, Table.keys, Table.size]

/-- No key is without a value, and none of them is undefined. -/
theorem assignmentWarnings (begins : world.heap.Begins a walk)
    (same : world.heap.kind b = world.heap.kind a) :
    world.assignmentWarnings b (walk.contents world.heap) = [] := by
  unfold World.assignmentWarnings
  cases begins with
  | array hcontent =>
    rw [Heap.kind, Heap.kind, hcontent] at same
    exact if_neg fun h => by rw [Heap.kind, same] at h; cases h
  | @hash entries keys hcontent perm =>
    rw [Enumerator.contents_hash, world.keyedPairs_flattenPairs]
    exact ite_self _

/-- **What the members of a container are assigned to holds the same data.** -/
theorem sameMembers (begins : world.heap.Begins a walk)
    (same : world.heap.kind b = world.heap.kind a)
    (scalars : ∀ c ∈ (world.heap.content a).cells, world.heap.IsScalar c)
    (assigned : world.Assigned b (walk.contents world.heap) after) :
    world.heap.SameMembers after.heap (world.heap.content a) (after.heap.content b) := by
  have filled := assigned.filled
  generalize after.heap.content b = content at filled
  rw [same, Heap.kind] at filled
  cases begins with
  | array hcontent =>
    rw [hcontent] at filled scalars ⊢
    rw [Enumerator.contents_array hcontent] at filled
    cases filled with
    | array lists =>
      refine .array ?_
      rw [lists.map_datum?, List.map_map]
      exact List.map_congr_left fun c hc => (Heap.datum?_of_isScalar (scalars c hc)).symm
  | @hash entries keys hcontent perm =>
    rw [hcontent] at filled scalars ⊢
    rw [Enumerator.contents_hash] at filled
    cases filled with
    | hash tabulates =>
      rw [world.keyedPairs_flattenPairs] at tabulates
      refine .hash fun key => ?_
      rw [tabulates.map_datum?, Heap.lookup_reverse_entryPairs, Heap.hashGet?_of_content hcontent]
      cases hcell : entries.get? key with
      | none => simp
      | some cell =>
        have hkey : key ∈ entries.keys := by
          refine Classical.byContradiction fun hnot => ?_
          rw [Table.get?_eq_none_iff.2 hnot] at hcell
          cases hcell
        have hscalar := scalars cell (Table.mem_values_of_get? hcell)
        rw [if_pos (perm.mem_iff.2 hkey)]
        simp [Heap.datum?_of_isScalar hscalar]

end Heap.Begins

/-! ## Writing to elements -/

namespace Heap

/-- One step of writing to the elements of a container: a cell of it is written, or a place in it is
asked for that gets a cell if it had none. -/
inductive WritesElement (v : Value) (heap : Heap) : Heap → Prop where
  | cell {c : Value} {heap' : Heap} (mem : c ∈ (heap.content v).cells)
      (rewrites : heap.Rewrites c heap') : WritesElement v heap heap'
  | index (i : Nat) : WritesElement v heap (heap.arrayElement v i).2
  | key (k : String) : WritesElement v heap (heap.hashElement v k).2

/-- What happened since a heap happened to a container, to its cells of that time and to bodies that
came later. -/
structure Apart (start : Heap) (v : Value) (heap : Heap) : Prop where
  size : start.size ≤ heap.size
  others : ∀ w : Value, w.id < start.size → w ≠ v → w ∉ (start.content v).cells →
    heap.body w = start.body w
  cells : ∀ c ∈ (heap.content v).cells, c ∈ (start.content v).cells ∨ start.size ≤ c.id

namespace Apart

theorem refl (start : Heap) (v : Value) : start.Apart v start :=
  ⟨Nat.le_refl _, fun _ _ _ _ => rfl, fun _ hc => .inl hc⟩

/-- A cell of the container is written. -/
theorem write (apart : start.Apart v heap) (hv : v.id < start.size)
    (notOwn : v ∉ (start.content v).cells) (mem : c ∈ (heap.content v).cells)
    (rewrites : heap.Rewrites c heap') : start.Apart v heap' where
  size := by
    rw [rewrites.size_eq]
    exact apart.size
  others := by
    intro w hw hne hnot
    have hcw : c ≠ w := by
      rintro rfl
      rcases apart.cells c mem with hold | hnew
      · exact hnot hold
      · exact Nat.not_lt.2 hnew hw
    rw [rewrites.body_ne hcw, apart.others w hw hne hnot]
  cells := by
    have hcv : c ≠ v := by
      rintro rfl
      rcases apart.cells c mem with hold | hnew
      · exact notOwn hold
      · exact Nat.not_lt.2 hnew hv
    rw [rewrites.content_ne hcv]
    exact apart.cells

/-- The container gets new cells beside those that it has. -/
theorem grow (apart : start.Apart v heap) (longer : heap.Extends heap'')
    (rewrites : heap''.Rewrites v heap')
    (cells : ∀ c ∈ (heap'.content v).cells, c ∈ (heap.content v).cells ∨ heap.size ≤ c.id) :
    start.Apart v heap' where
  size := by
    rw [rewrites.size_eq]
    exact Nat.le_trans apart.size longer.size
  others := by
    intro w hw hne hnot
    rw [rewrites.body_ne hne.symm, longer.body w (Nat.lt_of_lt_of_le hw apart.size),
      apart.others w hw hne hnot]
  cells := by
    intro c hc
    rcases cells c hc with hold | hnew
    · exact apart.cells c hold
    · exact .inr (Nat.le_trans apart.size hnew)

end Apart

theorem mem_growItems {items : Array Value} {count : Nat}
    (h : c ∈ (heap.growItems items count).1.toList) : c ∈ items.toList ∨ heap.size ≤ c.id := by
  induction count generalizing heap items with
  | zero => exact .inl h
  | succ count ih =>
    rcases ih h with hmem | hnew
    · rcases List.mem_cons.1 (toList_push_subset _ _ hmem) with rfl | hold
      · exact .inr (Nat.le_refl _)
      · exact .inl hold
    · exact .inr (Nat.le_trans (Extends.newScalar heap .undef).size hnew)

theorem Apart.arrayElement (apart : start.Apart v heap) (i : Nat) :
    start.Apart v (heap.arrayElement v i).2 := by
  unfold Heap.arrayElement
  cases hitems : heap.items? v with
  | none => exact apart
  | some items =>
    have hlonger := Extends.growItems heap items (i + 1 - items.size)
    have hlt := Nat.lt_of_lt_of_le (lt_size_of_items? hitems) hlonger.size
    have hgrown := items?_eq_some_iff.1 (items?_growItems hitems (i + 1 - items.size))
    refine apart.grow hlonger (rewrites_setItems _ v _) ?_
    intro c hc
    rw [content_setItems_self hlt hgrown] at hc
    rw [items?_eq_some_iff.1 hitems]
    exact mem_growItems hc

theorem Apart.hashElement (apart : start.Apart v heap) (k : String) :
    start.Apart v (heap.hashElement v k).2 := by
  unfold Heap.hashElement
  cases hentries : heap.entries? v with
  | none => exact apart
  | some entries =>
    simp only
    cases hcell : entries.get? k with
    | some cell => exact apart
    | none =>
      have hlonger := Extends.newScalar heap .undef
      have hlt := Nat.lt_of_lt_of_le (lt_size_of_entries? hentries) hlonger.size
      have hthen := entries?_eq_some_iff.1 (entries?_newScalar hentries .undef)
      refine apart.grow hlonger (rewrites_setEntries _ v _) ?_
      intro c hc
      rw [content_setEntries_self hlt hthen] at hc
      rcases List.mem_cons.1 (Table.values_insert_subset _ _ _ hc) with rfl | hold
      · exact .inr (Nat.le_refl _)
      · rw [entries?_eq_some_iff.1 hentries]
        exact .inl hold

/-- **Writing to the elements of a container** leaves all other bodies alone, however often it is
done. -/
theorem apart_of_writes (hv : v.id < start.size) (notOwn : v ∉ (start.content v).cells)
    (writes : Relation.ReflTransGen (WritesElement v) start heap) : start.Apart v heap := by
  induction writes with
  | refl => exact .refl start v
  | tail _ step apart =>
    cases step with
    | cell mem rewrites => exact apart.write hv notOwn mem rewrites
    | index i => exact apart.arrayElement i
    | key k => exact apart.hashElement k

end Heap

namespace World.Assigned

/-- What a list was assigned to has nothing in common with a container that kept its cells, so nothing
that is written to the elements of that one shows in it. -/
theorem unaffected {data : List Datum} (assigned : world.Assigned b data after)
    (scalars : ∀ c ∈ (world.heap.content a).cells, world.heap.IsScalar c)
    (ha : world.heap.kind a ≠ .scalar) (hb : world.heap.kind b ≠ .scalar) (hne : a ≠ b)
    (writes : Relation.ReflTransGen (Heap.WritesElement a) after.heap heap) :
    heap.content b = after.heap.content b ∧
      ∀ c ∈ (after.heap.content b).cells, heap.body c = after.heap.body c := by
  have hlt := Heap.lt_size_of_kind_ne_scalar ha
  have hcontent : after.heap.content a = world.heap.content a :=
    congrArg Body.content (assigned.others a hlt hne)
  -- The cells of the one are scalars, and neither container is one.
  have notCell {w : Value} (hw : world.heap.kind w ≠ .scalar) : w ∉ (after.heap.content a).cells := by
    intro hmem
    rw [hcontent] at hmem
    exact hw (scalars w hmem).kind_eq
  have apart := Heap.apart_of_writes (Nat.lt_of_lt_of_le hlt assigned.size) (notCell ha) writes
  have hbounds := Nat.lt_of_lt_of_le (Heap.lt_size_of_kind_ne_scalar hb) assigned.size
  refine ⟨congrArg Body.content (apart.others b hbounds hne.symm (notCell hb)), ?_⟩
  intro c hc
  -- The cells of the other are new.
  have hnew := assigned.filled.cells_new c hc
  refine apart.others c (assigned.filled.cells_given c hc) ?_ ?_
  · rintro rfl
    exact Nat.not_lt.2 hnew hlt
  · intro hmem
    rw [hcontent] at hmem
    exact Nat.not_lt.2 hnew (scalars c hmem).lt_size

end World.Assigned

namespace Action

/-- The members of a container are a list like any other. -/
theorem exists_assigned_members (closed : world.heap.Closed)
    (scalars : ∀ c ∈ (world.heap.content b).cells, world.heap.IsScalar c)
    (begins : world.heap.Begins a walk) (same : world.heap.kind b = world.heap.kind a) :
    ∃ after, assign b (walk.drain world.heap).1 { world with heap := (walk.drain world.heap).2 } =
        .ok (world.heap.content a).memberCount after ∧
      world.Assigned b (walk.contents world.heap) after := by
  have fits := begins.fits closed
  obtain ⟨gathers, -⟩ :=
    Enumerator.gathers_take fits (Enumerator.length_contents_le world.heap walk)
  have texts := World.keyedPairs_extends gathers.longer fun datum hdatum =>
    Enumerator.gave_contents closed fits hdatum
  have hb := Heap.lt_size_of_kind_ne_scalar (same ▸ begins.kind_ne)
  have hassign := assign_of_gathers gathers hb scalars texts
  have hkind : world.heap.kind b ∈ [.scalar, .array, .hash] := by
    rw [same, Heap.kind]
    cases begins with
    | array hcontent | hash hcontent =>
      rw [hcontent]
      simp [Content.kind]
  rw [if_pos hkind, gathers.length_eq, begins.length_contents] at hassign
  exact hassign

/-- **Assigning the members of a container copies it**, to itself or to another one of its kind, with
the keys in any order. -/
theorem assign_members_copies (closed : world.heap.Closed)
    (scalars : ∀ v, ∀ c ∈ (world.heap.content v).cells, world.heap.IsScalar c)
    (begins : world.heap.Begins a walk) (same : world.heap.kind b = world.heap.kind a) :
    let drained := walk.drain world.heap
    ∃ after, assign b drained.1 { world with heap := drained.2 } =
        .ok (world.heap.content a).memberCount after ∧
      world.heap.SameMembers after.heap (world.heap.content a) (after.heap.content b) ∧
      (∀ c ∈ (after.heap.content b).cells, world.heap.size ≤ c.id) ∧
      (after.heap.content b).cells.Nodup ∧
      after.log = world.log ∧
      (a ≠ b → after.heap.content a = world.heap.content a ∧
        ∀ later, Relation.ReflTransGen (Heap.WritesElement a) after.heap later →
          later.content b = after.heap.content b ∧
            ∀ c ∈ (after.heap.content b).cells, later.body c = after.heap.body c) := by
  intro drained
  obtain ⟨after, hafter, assigned⟩ := exists_assigned_members closed (scalars b) begins same
  refine ⟨after, hafter, begins.sameMembers same (scalars a) assigned, assigned.filled.cells_new,
    assigned.filled.cells_nodup, ?_, fun hne => ⟨?_, fun later writes => ?_⟩⟩
  · rw [assigned.warned, begins.assignmentWarnings same]
    rfl
  · have hlt := Heap.lt_size_of_kind_ne_scalar begins.kind_ne
    exact congrArg Body.content (assigned.others a hlt hne)
  · have hb : world.heap.kind b ≠ .scalar := same ▸ begins.kind_ne
    exact assigned.unaffected (scalars a) begins.kind_ne hb hne writes

/-- The members of a hash, its keys in another order, are assigned to an empty one. What is stored in an
element of the first afterwards does not show in the second. -/
theorem assign_members_copies_toEmpty :
    let world : World :=
      { settings := {}, heap := (Enumerator.threeEntries.newHash []).2, classes := .empty 100 }
    let drained := (Enumerator.hash ⟨3⟩ ["b", "c", "a"] none).drain world.heap
    ∃ after, assign ⟨4⟩ drained.1 { world with heap := drained.2 } = .ok 6 after ∧
      world.heap.SameMembers after.heap (world.heap.content ⟨3⟩) (after.heap.content ⟨4⟩) ∧
      after.log = world.log ∧
      ∀ c ∈ (after.heap.content ⟨4⟩).cells,
        (after.heap.assign ⟨0⟩ .undef).body c = after.heap.body c := by
  intro world drained
  have closed : world.heap.Closed := by decide
  have owned : world.heap.Owned 0 :=
    ((Heap.empty.accounts_newHash 0 _).trans (Heap.accounts_newHash _ 0 [])).owned Heap.owned_empty
  have begins : world.heap.Begins ⟨3⟩ (.hash ⟨3⟩ ["b", "c", "a"] none) :=
    .hash rfl (by decide)
  obtain ⟨after, hafter, hsame, -, -, hlog, hapart⟩ :=
    assign_members_copies (b := ⟨4⟩) closed (fun v c hc => owned.isScalar hc) begins rfl
  obtain ⟨hcontent, hapart⟩ := hapart (by decide)
  have hmem : ⟨0⟩ ∈ (after.heap.content ⟨3⟩).cells := by
    rw [hcontent]
    exact List.mem_cons_self
  refine ⟨after, hafter, hsame, hlog, ?_⟩
  exact (hapart _ (.single (.cell hmem (Heap.rewrites_assign _ _ _)))).2

end Action

end DynamicValues
