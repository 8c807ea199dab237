import DynamicValues.Proofs.Heap.Cells
import DynamicValues.World.Snapshot

/-!
# Operations account for their cells

Every operation on the heap accounts for its cells (`Heap.Accounts`). An array or hash that is filled
gets cells that are at hand, and most of the time these are fresh; one that is emptied lets its cells
go. Only localizing leaves cells at hand: a snapshot takes those of an array or hash with it, and
restoring takes them from there. Nothing is asked of the values that an operation is given.
-/

set_option autoImplicit false

namespace DynamicValues

namespace Heap

variable {heap heap' : Heap} {v : Value} {held held' : Multiset Value}

/-! ## Contents without cells -/

theorem accounts_allocContent {content : Content} (hnone : content.cells = []) (heap : Heap)
    (held : Multiset Value) : heap.Accounts held (heap.allocContent content).2 held := by
  have halloc := heap.accounts_alloc { content } held
  rwa [hnone, Multiset.coe_nil, add_zero] at halloc

theorem accounts_emptyContent (kind : ContainerKind) (heap : Heap) (held : Multiset Value) :
    heap.Accounts held (heap.allocContent kind.emptyContent).2 held :=
  accounts_allocContent (by cases kind <;> rfl) heap held

/-- The cells of a content are replaced. -/
theorem accounts_setContent {new : Content} (kind_eq : new.kind = heap.kind v)
    (le : (new.cells : Multiset Value) + held' ≤ (heap.content v).cells + held) :
    heap.Accounts held (heap.setContent v new) held' := accounts_setBody kind_eq le

/-- The datum or the slots of a body are replaced. -/
theorem accounts_setContent_of_nil {new : Content} (kind_eq : new.kind = heap.kind v)
    (hnone : new.cells = []) (held : Multiset Value) :
    heap.Accounts held (heap.setContent v new) held := by
  refine accounts_setContent kind_eq ?_
  rw [hnone]
  exact add_le_add_left (Multiset.zero_le _) held

section Plain

variable (heap v held)

theorem accounts_assign (datum : Datum) : heap.Accounts held (heap.assign v datum) held := by
  unfold assign
  split
  · next h => exact accounts_setContent_of_nil (by rw [kind, h]; rfl) rfl held
  · exact .refl heap held

theorem accounts_setPosition (position : Option Nat) :
    heap.Accounts held (heap.setPosition v position) held := by
  unfold setPosition
  split
  · next h => exact accounts_setContent_of_nil (by rw [kind, h]; rfl) rfl held
  · exact .refl heap held

theorem accounts_setSlots (slots : GlobSlots) :
    heap.Accounts held (heap.setSlots v slots) held := by
  unfold setSlots
  split
  · next h => exact accounts_setContent_of_nil (by rw [kind, h]; rfl) rfl held
  · exact .refl heap held

theorem accounts_setBlessing (blessing : Option StashId) :
    heap.Accounts held (heap.setBlessing v blessing) held := accounts_setBody rfl le_rfl

theorem accounts_globSet (content : Value) : heap.Accounts held (heap.globSet v content) held := by
  unfold globSet
  split
  · exact heap.accounts_setSlots v held _
  · exact heap.accounts_setSlots v held _
  · exact .refl heap held

theorem accounts_globVivify (kind : ContainerKind) :
    heap.Accounts held (heap.globVivify v kind).2 held := by
  unfold globVivify
  split
  · exact .refl heap held
  · split
    · exact .refl heap held
    · exact (accounts_emptyContent kind heap held).trans (accounts_setSlots _ v held _)

theorem accounts_undefine : heap.Accounts held (heap.undefine v).2 held := by
  unfold undefine
  split
  · exact heap.accounts_assign v held _
  · exact (heap.accounts_newScalar .undef held).drop (Multiset.le_cons_self held _)

theorem accounts_vivifyUndef {kind : ContainerKind} {container : Value}
    (h : heap.vivifyUndef v kind = some (container, heap')) : heap.Accounts held heap' held := by
  unfold vivifyUndef at h
  split at h
  · obtain ⟨rfl, rfl⟩ := Prod.mk.inj (Option.some.inj h)
    exact (accounts_emptyContent kind heap held).trans (accounts_assign _ v held _)
  · exact absurd h (by simp)

end Plain

/-! ## Fresh cells -/

theorem accounts_newCells (heap : Heap) (data : List Datum) (held : Multiset Value) :
    heap.Accounts held (heap.newCells data).2 ((heap.newCells data).1 + held) := by
  induction data generalizing heap held with
  | nil => exact (Accounts.refl heap held).drop (le_of_eq (zero_add held))
  | cons datum data ih =>
    refine ((heap.accounts_newScalar datum held).trans (ih _ _)).drop (le_of_eq ?_)
    rw [newCells, ← Multiset.cons_coe, Multiset.cons_add, Multiset.add_cons]

theorem accounts_newEntries (heap : Heap) (entries : Table Value) (pairs : List (String × Datum))
    (held : Multiset Value) :
    heap.Accounts (entries.values + held) (heap.newEntries entries pairs).2
      ((heap.newEntries entries pairs).1.values + held) := by
  induction pairs generalizing heap entries with
  | nil => exact .refl heap _
  | cons pair pairs ih =>
    refine Accounts.trans ?_ (ih _ _)
    refine (heap.accounts_newScalar pair.2 _).drop ?_
    rw [← Multiset.cons_add]
    exact add_le_add_left (entries.values_insert_le pair.1 _) held

/-- An array grows by fresh cells. -/
theorem accounts_growItems (heap : Heap) (items : Array Value) (count : Nat)
    (held : Multiset Value) :
    ∃ added : List Value, (heap.growItems items count).1.toList = items.toList ++ added ∧
      heap.Accounts held (heap.growItems items count).2 (added + held) := by
  induction count generalizing heap items held with
  | zero => exact ⟨[], (List.append_nil _).symm, (Accounts.refl heap held).drop (zero_add held).le⟩
  | succ count ih =>
    let cell := (heap.newScalar .undef).1
    obtain ⟨added, hitems, hadded⟩ := ih (heap.newScalar .undef).2 (items.push cell) (cell ::ₘ held)
    refine ⟨cell :: added, ?_, ?_⟩
    · rw [growItems, hitems, Array.toList_push, List.append_assoc, List.singleton_append]
    · refine ((heap.accounts_newScalar .undef held).trans hadded).drop (le_of_eq ?_)
      rw [← Multiset.cons_coe, Multiset.cons_add, Multiset.add_cons]

theorem content_newScalar (datum : Datum) (hlt : v.id < heap.size) :
    (heap.newScalar datum).2.content v = heap.content v := content_allocContent _ hlt

theorem content_growItems (items : Array Value) (count : Nat) (hlt : v.id < heap.size) :
    (heap.growItems items count).2.content v = heap.content v := by
  induction count generalizing heap items with
  | zero => rfl
  | succ count ih =>
    have hstep := heap.evolves_newScalar .undef
    exact (ih _ (Nat.lt_of_lt_of_le hlt hstep.size)).trans (content_newScalar _ hlt)

/-! ## Arrays -/

theorem items?_eq_some_iff {items : Array Value} :
    heap.items? v = some items ↔ heap.content v = .array items := by
  unfold items?
  cases heap.content v <;> simp

theorem lt_size_of_items? {items : Array Value} (h : heap.items? v = some items) :
    v.id < heap.size := by
  refine lt_size_of_kind_ne_scalar ?_
  rw [kind, items?_eq_some_iff.1 h]
  exact Kind.noConfusion

theorem items?_newScalar {items : Array Value} (h : heap.items? v = some items) (datum : Datum) :
    (heap.newScalar datum).2.items? v = some items := by
  rw [items?_eq_some_iff, content_newScalar datum (lt_size_of_items? h)]
  exact items?_eq_some_iff.1 h

theorem items?_growItems {items : Array Value} (h : heap.items? v = some items) (count : Nat) :
    (heap.growItems items count).2.items? v = some items := by
  rw [items?_eq_some_iff, content_growItems items count (lt_size_of_items? h)]
  exact items?_eq_some_iff.1 h

/-- The items of an array are replaced by some of these items and of the cells at hand. -/
theorem accounts_setItems {items new : Array Value} (h : heap.items? v = some items)
    (le : (new.toList : Multiset Value) + held' ≤ items.toList + held) :
    heap.Accounts held (heap.setItems v new) held' := by
  have hcontent := items?_eq_some_iff.1 h
  unfold setItems
  rw [hcontent]
  refine accounts_setContent (by rw [kind, hcontent]; rfl) ?_
  rw [hcontent]
  exact le

/-- An array is refilled with cells at hand; what is no array is not. -/
theorem accounts_refillItems (heap : Heap) (v : Value) (new : Array Value)
    (held : Multiset Value) :
    heap.Accounts (new.toList + held) (heap.setItems v new) held := by
  cases hitems : heap.items? v with
  | some items => exact accounts_setItems hitems (Multiset.le_add_left _ _)
  | none =>
    have hsame : heap.setItems v new = heap := by
      unfold setItems
      unfold items? at hitems
      split <;> simp_all
    rw [hsame]
    exact (Accounts.refl heap _).drop (Multiset.le_add_left _ _)

section Arrays

variable (heap v held)

theorem accounts_newArray (data : List Datum) :
    heap.Accounts held (heap.newArray data).2 held := by
  refine (heap.accounts_newCells data held).trans ?_
  rw [add_comm]
  exact accounts_alloc _ { content := .array (heap.newCells data).1.toArray } held

theorem accounts_assignArray (data : List Datum) :
    heap.Accounts held (heap.assignArray v data) held :=
  (heap.accounts_newCells data held).trans (accounts_refillItems _ v _ held)

theorem accounts_clear : heap.Accounts held (heap.clear v) held := by
  have hrefill := heap.accounts_refillItems v #[] held
  rwa [Multiset.coe_nil, zero_add] at hrefill

theorem accounts_push (datum : Datum) : heap.Accounts held (heap.push v datum) held := by
  unfold push
  split
  · exact .refl heap held
  · next items hitems =>
    refine (heap.accounts_newScalar datum held).trans
      (accounts_setItems (items?_newScalar hitems datum) ?_)
    rw [Array.toList_push, ← Multiset.coe_add, add_assoc]
    exact le_rfl

theorem accounts_pop : heap.Accounts held (heap.pop v).2 held := by
  unfold pop
  split
  · exact .refl heap held
  · next items hitems =>
    refine accounts_setItems hitems (add_le_add_left (Multiset.coe_le.2 ?_) held)
    rw [Array.toList_pop]
    exact (List.dropLast_sublist _).subperm

theorem accounts_arrayElement (index : Nat) :
    heap.Accounts held (heap.arrayElement v index).2 held := by
  unfold arrayElement
  split
  · exact .refl heap held
  · next items hitems =>
    let count := index + 1 - items.size
    obtain ⟨added, hgrown, hadded⟩ := heap.accounts_growItems items count held
    refine hadded.trans (accounts_setItems (items?_growItems hitems count) ?_)
    -- The old items are in the array, so only what was added comes from at hand.
    rw [hgrown, ← Multiset.coe_add, add_assoc]

end Arrays

/-! ## Hashes -/

theorem entries?_eq_some_iff {entries : Table Value} :
    heap.entries? v = some entries ↔ heap.content v = .hash entries := by
  unfold entries?
  cases heap.content v <;> simp

theorem lt_size_of_entries? {entries : Table Value} (h : heap.entries? v = some entries) :
    v.id < heap.size := by
  refine lt_size_of_kind_ne_scalar ?_
  rw [kind, entries?_eq_some_iff.1 h]
  exact Kind.noConfusion

theorem entries?_newScalar {entries : Table Value} (h : heap.entries? v = some entries)
    (datum : Datum) : (heap.newScalar datum).2.entries? v = some entries := by
  rw [entries?_eq_some_iff, content_newScalar datum (lt_size_of_entries? h)]
  exact entries?_eq_some_iff.1 h

/-- The entries of a hash are replaced by some of these values and of the cells at hand. -/
theorem accounts_setEntries {entries new : Table Value} (h : heap.entries? v = some entries)
    (le : (new.values : Multiset Value) + held' ≤ entries.values + held) :
    heap.Accounts held (heap.setEntries v new) held' := by
  have hcontent := entries?_eq_some_iff.1 h
  unfold setEntries
  rw [hcontent]
  refine accounts_setContent (by rw [kind, hcontent]; rfl) ?_
  rw [hcontent]
  exact le

/-- A hash is refilled with cells at hand; what is no hash is not. -/
theorem accounts_refillEntries (heap : Heap) (v : Value) (new : Table Value)
    (held : Multiset Value) :
    heap.Accounts (new.values + held) (heap.setEntries v new) held := by
  cases hentries : heap.entries? v with
  | some entries => exact accounts_setEntries hentries (Multiset.le_add_left _ _)
  | none =>
    have hsame : heap.setEntries v new = heap := by
      unfold setEntries
      unfold entries? at hentries
      split <;> simp_all
    rw [hsame]
    exact (Accounts.refl heap _).drop (Multiset.le_add_left _ _)

/-- A cell at hand goes into a hash. -/
theorem accounts_insert {entries : Table Value} (h : heap.entries? v = some entries) (key : String)
    (cell : Value) : heap.Accounts (cell ::ₘ held) (heap.setEntries v (entries.insert key cell))
      held := by
  refine accounts_setEntries h ((add_le_add_left (entries.values_insert_le key cell) held).trans ?_)
  rw [Multiset.cons_add, Multiset.add_cons]

/-- A fresh cell goes into a hash. -/
theorem accounts_insert_newScalar {entries : Table Value} (h : heap.entries? v = some entries)
    (key : String) (datum : Datum) (held : Multiset Value) :
    heap.Accounts held ((heap.newScalar datum).2.setEntries v
      (entries.insert key (heap.newScalar datum).1)) held :=
  (heap.accounts_newScalar datum held).trans (accounts_insert (entries?_newScalar h datum) key _)

section Hashes

variable (heap v held)

/-- A table of fresh cells. -/
theorem accounts_newTable (pairs : List (String × Datum)) :
    heap.Accounts held (heap.newEntries .empty pairs).2
      ((heap.newEntries .empty pairs).1.values + held) := by
  have hentries := heap.accounts_newEntries .empty pairs held
  rwa [show (Table.empty : Table Value).values = [] from rfl, Multiset.coe_nil, zero_add] at hentries

theorem accounts_newHash (pairs : List (String × Datum)) :
    heap.Accounts held (heap.newHash pairs).2 held := by
  refine (heap.accounts_newTable held pairs).trans ?_
  rw [add_comm]
  exact accounts_alloc _ { content := .hash (heap.newEntries .empty pairs).1 } held

theorem accounts_assignHash (pairs : List (String × Datum)) :
    heap.Accounts held (heap.assignHash v pairs) held :=
  (heap.accounts_newTable held pairs).trans (accounts_refillEntries _ v _ held)

theorem accounts_hashElement (key : String) :
    heap.Accounts held (heap.hashElement v key).2 held := by
  unfold hashElement
  split
  · exact .refl heap held
  · next entries hentries =>
    split
    · exact .refl heap held
    · exact accounts_insert_newScalar hentries key .undef held

theorem accounts_hashInsert (key : String) (datum : Datum) :
    heap.Accounts held (heap.hashInsert v key datum) held := by
  unfold hashInsert
  split
  · exact .refl heap held
  · next entries hentries => exact accounts_insert_newScalar hentries key datum held

theorem accounts_hashRemove (key : String) :
    heap.Accounts held (heap.hashRemove v key).2 held := by
  unfold hashRemove
  split
  · exact .refl heap held
  · next entries hentries =>
    exact accounts_setEntries hentries (add_le_add_left (entries.values_erase_le key) held)

end Hashes

end Heap

/-! ## Snapshots -/

namespace Snapshot

/-- The cells that a snapshot keeps. -/
def cells : Snapshot → List Value
  | .array _ items => items.toList
  | .hash _ entries => entries.values
  | .whole _ body => body.content.cells
  | .element _ _ previous => previous.toList
  | _ => []

/-- A whole body was saved from one of its kind, so that it can be put back there. -/
def Suits (snapshot : Snapshot) (heap : Heap) : Prop :=
  ∀ v body, snapshot = .whole v body → v.id < heap.size ∧ body.content.kind = heap.kind v

theorem Suits.evolves {snapshot : Snapshot} {heap heap' : Heap} (suits : snapshot.Suits heap)
    (evolves : heap.Evolves heap') : snapshot.Suits heap' := by
  intro v body hwhole
  obtain ⟨hlt, hkind⟩ := suits v body hwhole
  exact ⟨Nat.lt_of_lt_of_le hlt evolves.size, hkind.trans (evolves.kind v hlt).symm⟩

end Snapshot

namespace Heap

variable {heap heap' : Heap} {held : Multiset Value} {v : Value}

theorem suits_localize (heap : Heap) (v : Value) :
    (heap.localize v).1.Suits (heap.localize v).2 := by
  refine Snapshot.Suits.evolves ?_ (heap.evolves_localize v)
  intro w body hsaved
  have hwhole (hkind : heap.kind v ≠ .scalar) (h : Snapshot.whole v (heap.body v) = .whole w body) :
      w.id < heap.size ∧ body.content.kind = heap.kind w := by
    obtain ⟨rfl, rfl⟩ := Snapshot.whole.inj h
    exact ⟨lt_size_of_kind_ne_scalar hkind, rfl⟩
  unfold localize at hsaved
  split at hsaved
  · exact Snapshot.noConfusion hsaved
  · exact Snapshot.noConfusion hsaved
  · exact Snapshot.noConfusion hsaved
  · exact Snapshot.noConfusion hsaved
  · next h => exact hwhole (by simp [kind, h, Content.kind]) hsaved
  · next h => exact hwhole (by simp [kind, h, Content.kind]) hsaved
  · next h => exact hwhole (by simp [kind, h, Content.kind]) hsaved

/-- What a value held is in the snapshot. -/
theorem accounts_localize (heap : Heap) (v : Value) (held : Multiset Value) :
    heap.Accounts held (heap.localize v).2 ((heap.localize v).1.cells + held) := by
  have hwhole (hnone : (heap.content v).cells = []) :
      heap.Accounts held heap ((Snapshot.whole v (heap.body v)).cells + held) := by
    rw [Snapshot.cells, ← content, hnone]
    exact (Accounts.refl heap held).drop (zero_add held).le
  unfold localize
  split
  · exact (heap.accounts_assign v held _).drop (zero_add held).le
  · next items h => exact accounts_setItems (items?_eq_some_iff.2 h) (zero_add _).le
  · next entries h => exact accounts_setEntries (entries?_eq_some_iff.2 h) (zero_add _).le
  · exact (heap.accounts_setSlots v held _).drop (zero_add held).le
  · next h => exact hwhole (by rw [h]; rfl)
  · next h => exact hwhole (by rw [h]; rfl)
  · next h => exact hwhole (by rw [h]; rfl)

/-- The cell that was under the key is in the snapshot. -/
theorem accounts_localizeElement {hash cell : Value} {key : String} {snapshot : Snapshot}
    (h : heap.localizeElement hash key = .ok ((snapshot, cell), heap')) (held : Multiset Value) :
    heap.Accounts held heap' (snapshot.cells + held) := by
  unfold localizeElement at h
  split at h
  · exact absurd h (by simp)
  · next entries hentries =>
    obtain ⟨⟨rfl, rfl⟩, rfl⟩ := by simpa using h
    refine (heap.accounts_newScalar .undef held).trans
      (accounts_setEntries (entries?_newScalar hentries .undef) ?_)
    -- The fresh cell comes from at hand, and the one that was there goes to hand.
    rw [Snapshot.cells, ← add_assoc, Table.values_insert_add, Multiset.cons_add, Multiset.add_cons]

/-- What a snapshot holds goes back into the value. -/
theorem accounts_restore {snapshot : Snapshot} (suits : snapshot.Suits heap) (held : Multiset Value) :
    heap.Accounts (snapshot.cells + held) (snapshot.restore heap) held := by
  cases snapshot with
  | scalar v datum position =>
    rw [show (Snapshot.scalar v datum position).cells = [] from rfl, Multiset.coe_nil, zero_add]
    exact (heap.accounts_assign v held datum).trans (accounts_setPosition _ v held position)
  | array v items => exact heap.accounts_refillItems v items held
  | hash v entries => exact heap.accounts_refillEntries v entries held
  | glob v slots => exact (heap.accounts_setSlots v _ slots).drop (Multiset.le_add_left _ _)
  | whole v body =>
    exact accounts_setBody (suits v body rfl).2 (Multiset.le_add_left _ _)
  | element v key previous =>
    simp only [Snapshot.restore]
    split
    · next entries cell hentries => exact accounts_insert hentries key cell
    · next entries hentries =>
      refine accounts_setEntries hentries ?_
      exact add_le_add (entries.values_erase_le key) (Multiset.le_add_left _ _)
    · exact (Accounts.refl heap _).drop (Multiset.le_add_left _ _)

theorem accounts_restoreAll {snapshots : List Snapshot}
    (suits : ∀ snapshot ∈ snapshots, snapshot.Suits heap) (held : Multiset Value) :
    heap.Accounts (snapshots.flatMap Snapshot.cells + held) (Snapshot.restoreAll heap snapshots)
      held := by
  induction snapshots generalizing heap with
  | nil => exact (Accounts.refl heap _).drop (zero_add held).ge
  | cons snapshot snapshots ih =>
    have hfirst := accounts_restore (suits snapshot List.mem_cons_self)
      ((snapshots.flatMap Snapshot.cells : Multiset Value) + held)
    rw [List.flatMap_cons, ← Multiset.coe_add, add_assoc]
    refine hfirst.trans (ih fun other hother => ?_)
    exact (suits other (List.mem_cons_of_mem _ hother)).evolves hfirst.evolves

end Heap

end DynamicValues
