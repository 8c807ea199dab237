import DynamicValues.Proofs.Heap.Fits
import DynamicValues.Proofs.Scope.Session

/-!
# A cell has one place

An array has its cells at indices and a hash under keys, and so has a snapshot of them. A `Position`
is a place in a container or in a snapshot that is still to be restored. In every session that
operations lead to, what stands at a position is a scalar, and **no cell stands at two positions**
(`Operation.cells_have_one_position`). So whoever writes to an element writes to this element alone:
what is found at any other index or key stays as it was.
-/

set_option autoImplicit false

namespace DynamicValues

/-! ## Positions -/

/-- A place in an array or hash. -/
inductive Slot where
  | index (i : Nat)
  | key (key : String)
  deriving DecidableEq

/-- The cell in a slot. -/
def Content.cellAt? : Content → Slot → Option Value
  | .array items, .index i => items[i]?
  | .hash entries, .key key => entries.get? key
  | _, _ => none

/-- The cell that a snapshot keeps for a slot of its value. -/
def Snapshot.cellAt? : Snapshot → Slot → Option Value
  | .array _ items, slot => (Content.array items).cellAt? slot
  | .hash _ entries, slot => (Content.hash entries).cellAt? slot
  | .whole _ body, slot => body.content.cellAt? slot
  | .element _ key previous, slot => if slot = .key key then previous else none
  | _, _ => none

/-- A slot of a container, or of a snapshot that is still to be restored. -/
inductive Position where
  | inBody (v : Value) (slot : Slot)
  | inPending (n : Nat) (slot : Slot)
  deriving DecidableEq

/-- The cell at a position. -/
def Session.cellAt? (session : Session) : Position → Option Value
  | .inBody v slot => (session.heap.content v).cellAt? slot
  | .inPending n slot => (session.pending[n]?).bind (·.cellAt? slot)

/-! ## Slots and cells -/

theorem mem_of_lookupEntry {α : Type} {key : String} {value : α} {entries : List (String × α)}
    (h : lookupEntry key entries = some value) : (key, value) ∈ entries := by
  induction entries with
  | nil => exact absurd h (by simp [lookupEntry])
  | cons entry entries ih =>
    obtain ⟨k, other⟩ := entry
    rw [lookupEntry] at h
    split at h
    · next hk =>
      obtain rfl := Option.some.inj h
      exact hk ▸ List.mem_cons_self
    · exact List.mem_cons_of_mem _ (ih h)

/-- Where no value is in a table twice, it is under one key. -/
theorem Table.key_eq_of_nodup {α : Type} {table : Table α} {key key' : String} {value : α}
    (nodup : table.values.Nodup) (h : table.get? key = some value)
    (h' : table.get? key' = some value) : key = key' := by
  have hsame := List.inj_on_of_nodup_map nodup (mem_of_lookupEntry h) (mem_of_lookupEntry h') rfl
  exact congrArg Prod.fst hsame

namespace Content

variable {content : Content} {slot slot' : Slot} {c : Value}

theorem mem_cells_of_cellAt? (h : content.cellAt? slot = some c) : c ∈ content.cells := by
  unfold cellAt? at h
  split at h
  · exact Array.mem_toList_iff.2 (Array.mem_of_getElem? h)
  · exact Table.mem_values_of_get? h
  · exact absurd h (by simp)

/-- Where no cell is in a container twice, it is in one slot. -/
theorem slot_eq_of_nodup (content : Content) (nodup : content.cells.Nodup)
    (h : content.cellAt? slot = some c) (h' : content.cellAt? slot' = some c) : slot = slot' := by
  cases content with
  | array items =>
    cases slot with
    | key key => exact absurd h (by simp [cellAt?])
    | index i =>
      cases slot' with
      | key key => exact absurd h' (by simp [cellAt?])
      | index j =>
        have hi : items.toList[i]? = some c := Array.getElem?_toList.trans h
        have hj : items.toList[j]? = some c := Array.getElem?_toList.trans h'
        obtain ⟨hlt, -⟩ := List.getElem?_eq_some_iff.1 hi
        rw [(List.getElem?_inj hlt nodup).1 (hi.trans hj.symm)]
  | hash entries =>
    cases slot with
    | index i => exact absurd h (by simp [cellAt?])
    | key key =>
      cases slot' with
      | index j => exact absurd h' (by simp [cellAt?])
      | key key' => rw [Table.key_eq_of_nodup nodup h h']
  | scalar | code | glob | handle | regex => exact absurd h (by simp [cellAt?])

end Content

namespace Snapshot

variable {snapshot : Snapshot} {slot slot' : Slot} {c : Value}

theorem mem_cells_of_cellAt? (h : snapshot.cellAt? slot = some c) : c ∈ snapshot.cells := by
  cases snapshot with
  | array v items => exact Content.mem_cells_of_cellAt? h
  | hash v entries => exact Content.mem_cells_of_cellAt? h
  | whole v body => exact Content.mem_cells_of_cellAt? h
  | element v key previous =>
    rw [cellAt?] at h
    split at h
    · exact Option.mem_toList.2 h
    · exact absurd h (by simp)
  | scalar | glob => exact absurd h (by simp [cellAt?])

theorem slot_eq_of_nodup (nodup : snapshot.cells.Nodup) (h : snapshot.cellAt? slot = some c)
    (h' : snapshot.cellAt? slot' = some c) : slot = slot' := by
  cases snapshot with
  | array v items => exact (Content.array items).slot_eq_of_nodup nodup h h'
  | hash v entries => exact (Content.hash entries).slot_eq_of_nodup nodup h h'
  | whole v body => exact body.content.slot_eq_of_nodup nodup h h'
  | element v key previous =>
    rw [cellAt?] at h h'
    split at h
    · next hslot =>
      split at h'
      · next hslot' => rw [hslot, hslot']
      · exact absurd h' (by simp)
    · exact absurd h (by simp)
  | scalar | glob => exact absurd h (by simp [cellAt?])

end Snapshot

namespace Session

variable {session : Session} {p q : Position} {c : Value}

/-- All cells, in containers and in snapshots. -/
theorem mem_of_cellAt? (h : session.cellAt? p = some c) :
    c ∈ session.heap.cells + session.held := by
  cases p with
  | inBody v slot =>
    exact Multiset.mem_add.2 (.inl (Heap.mem_cells_of_content (Content.mem_cells_of_cellAt? h)))
  | inPending n slot =>
    obtain ⟨snapshot, hn, hc⟩ := Option.bind_eq_some_iff.1 h
    refine Multiset.mem_add.2 (.inr (List.mem_flatMap.2 ⟨snapshot, List.mem_of_getElem? hn, ?_⟩))
    exact Snapshot.mem_cells_of_cellAt? hc

/-- A cell stands in one slot of one snapshot. -/
theorem Sound.pending_eq (sound : session.Sound) {n m : Nat} {slot slot' : Slot}
    (h : session.cellAt? (.inPending n slot) = some c)
    (h' : session.cellAt? (.inPending m slot') = some c) : n = m ∧ slot = slot' := by
  obtain ⟨snapshot, hn, hc⟩ := Option.bind_eq_some_iff.1 h
  obtain ⟨other, hm, hc'⟩ := Option.bind_eq_some_iff.1 h'
  have hmem := Snapshot.mem_cells_of_cellAt? hc
  have hmem' := Snapshot.mem_cells_of_cellAt? hc'
  have hheld : (session.pending.flatMap Snapshot.cells).Nodup :=
    Multiset.coe_nodup.1 (Multiset.nodup_add.1 sound.owned.nodup).2.1
  obtain ⟨hnodup, hdisjoint⟩ := List.nodup_flatMap.1 hheld
  obtain ⟨hlt, rfl⟩ := List.getElem?_eq_some_iff.1 hn
  obtain ⟨hlt', rfl⟩ := List.getElem?_eq_some_iff.1 hm
  rcases Nat.lt_trichotomy n m with hnm | rfl | hnm
  · exact absurd hmem' (List.pairwise_iff_getElem.1 hdisjoint _ _ _ _ hnm hmem)
  · exact ⟨rfl, Snapshot.slot_eq_of_nodup (hnodup _ (List.getElem_mem hlt)) hc hc'⟩
  · exact absurd hmem (List.pairwise_iff_getElem.1 hdisjoint _ _ _ _ hnm hmem')

/-- A cell in a container is in no snapshot. -/
theorem Sound.not_inPending (sound : session.Sound) {v : Value} {n : Nat} {slot slot' : Slot}
    (h : session.cellAt? (.inBody v slot) = some c) :
    session.cellAt? (.inPending n slot') ≠ some c := by
  intro h'
  obtain ⟨snapshot, hn, hc⟩ := Option.bind_eq_some_iff.1 h'
  have hcontainer := Heap.mem_cells_of_content (Content.mem_cells_of_cellAt? h)
  have hsnapshot : c ∈ session.held := List.mem_flatMap.2
    ⟨snapshot, List.mem_of_getElem? hn, Snapshot.mem_cells_of_cellAt? hc⟩
  have hdisjoint := (Multiset.nodup_add.1 sound.owned.nodup).2.2
  exact Multiset.disjoint_left.1 hdisjoint hcontainer hsnapshot

/-- **In a sound session a cell stands at one position.** -/
theorem Sound.position_eq (sound : session.Sound) (hp : session.cellAt? p = some c)
    (hq : session.cellAt? q = some c) : p = q := by
  cases p with
  | inBody v slot =>
    cases q with
    | inBody w slot' =>
      obtain rfl := sound.owned.holder_eq (Content.mem_cells_of_cellAt? hp)
        (Content.mem_cells_of_cellAt? hq)
      rw [Content.slot_eq_of_nodup _ (sound.owned.nodup_content v) hp hq]
    | inPending m slot' => exact absurd hq (sound.not_inPending hp)
  | inPending n slot =>
    cases q with
    | inBody w slot' => exact absurd hp (sound.not_inPending hq)
    | inPending m slot' =>
      obtain ⟨rfl, rfl⟩ := sound.pending_eq hp hq
      rfl

/-- And what stands there is a scalar. -/
theorem Sound.isScalar (sound : session.Sound) (h : session.cellAt? p = some c) :
    session.heap.IsScalar c := sound.owned.scalar c (mem_of_cellAt? h)

end Session

/-! ## Writing to an element -/

/-- A scalar that vivifies comes to refer to a fresh container at most. -/
theorem Action.content_vivify {world : World} {v w : Value} (hkind : world.heap.kind v = .scalar)
    (hw : w.id < world.heap.size) (hne : v ≠ w) (kind : ContainerKind) :
    ((vivify v kind).final world).heap.content w = world.heap.content w := by
  unfold final vivify ask
  cases hundef : world.heap.vivifyUndef v kind with
  | some made =>
    unfold Heap.vivifyUndef at hundef
    split at hundef
    · obtain rfl := Option.some.inj hundef
      exact ((Heap.rewrites_assign _ v _).content_ne hne).trans (Heap.content_allocContent _ hw)
    · exact absurd hundef (by simp)
  | none =>
    obtain ⟨datum, position, hcontent⟩ := Content.eq_scalar_of_kind hkind
    have hglob : world.heap.globVivify v kind = (none, world.heap) := by
      simp [Heap.globVivify, Heap.slots?, hcontent]
    rw [hglob]
    dsimp only
    cases world.heap.derefTyped v kind.kind <;> rfl

namespace Operation

/-- The cell that an operation writes to, if it is a scalar. -/
def writes? (session : Session) : Operation → Option Value
  | set v _ => some v
  | setPosition v _ => some v
  | undefine v => some v
  | assign v _ => some v
  | vivify v _ => some v
  | localize v => some v
  | localizeInScope v => some v
  | restore n => session.aside[n]?.bind fun
    | .scalar v _ _ => some v
    | _ => none
  | _ => none

variable {session : Session} {operation : Operation} {c w : Value}

/-- A write to a scalar leaves all other contents alone. -/
theorem content_apply_of_writes (hwrites : operation.writes? session = some c)
    (hkind : session.heap.kind c = .scalar) (hw : w.id < session.heap.size) (hne : c ≠ w) :
    (operation.apply session).heap.content w = session.heap.content w := by
  obtain ⟨datum, position, hcontent⟩ := Content.eq_scalar_of_kind hkind
  have hcontent : session.world.heap.content c = .scalar datum position := hcontent
  have hdatum : session.world.heap.datum? c = some datum := by simp [Heap.datum?, hcontent]
  have hassign (new : Datum) : (session.world.heap.assign c new).content w = _ :=
    (session.world.heap.rewrites_assign c new).content_ne hne
  cases operation with
  | set v new =>
    obtain rfl := Option.some.inj hwrites
    show ((Action.set v new).final session.world).heap.content w = _
    unfold Action.final Action.set
    rw [hdatum]
    exact hassign new
  | setPosition v new =>
    obtain rfl := Option.some.inj hwrites
    exact (session.heap.rewrites_setPosition v new).content_ne hne
  | undefine v =>
    obtain rfl := Option.some.inj hwrites
    show (session.world.heap.undefine v).2.content w = _
    unfold Heap.undefine
    rw [hdatum]
    exact hassign .undef
  | assign v items =>
    obtain rfl := Option.some.inj hwrites
    show ((Action.assign v items).final session.world).heap.content w = _
    unfold Action.final Action.assign
    rw [show session.world.heap.kind v = .scalar from hkind]
    exact hassign _
  | vivify v kind =>
    obtain rfl := Option.some.inj hwrites
    exact Action.content_vivify hkind hw hne kind
  | localize v =>
    obtain rfl := Option.some.inj hwrites
    show (session.world.heap.localize v).2.content w = _
    unfold Heap.localize
    rw [hcontent]
    exact hassign .undef
  | localizeInScope v =>
    obtain rfl := Option.some.inj hwrites
    show ((Action.localize v).final session.world).heap.content w = _
    rw [Action.final_localize, World.heap_save]
    unfold Heap.localize
    rw [hcontent]
    exact hassign .undef
  | restore n =>
    obtain ⟨snapshot, hn, hv⟩ := Option.bind_eq_some_iff.1 hwrites
    cases snapshot with
    | scalar v saved position =>
      obtain rfl := Option.some.inj hv
      show (session.restore n).heap.content w = _
      unfold Session.restore
      rw [hn]
      exact ((Heap.rewrites_setPosition _ v position).content_ne hne).trans (hassign saved)
    | array | hash | glob | whole | element => exact absurd hv (by simp)
  | _ => exact absurd hwrites (by simp [writes?])

/-! ## Runs -/

/-- **Cells are scalars, and each of them has one position.** Whatever is done from an empty heap on,
what stands at a position in a container or in a pending snapshot is a scalar of the heap, and it
stands at this position only. So an operation that writes to the cell of an element leaves the cell at
every other index and key as it was, and what that cell holds. -/
theorem cells_have_one_position (settings : Settings) (addresses : Addresses) (sink : WarningSink)
    (operations : List Operation) :
    let session := run operations (.start settings addresses sink)
    (∀ p c, session.cellAt? p = some c → session.heap.IsScalar c) ∧
    (∀ p q c, session.cellAt? p = some c → session.cellAt? q = some c → p = q) ∧
    ∀ (operation : Operation) (p : Position) (c v : Value) (slot : Slot) (d : Value),
      operation.writes? session = some c → session.cellAt? p = some c →
      session.cellAt? (.inBody v slot) = some d → p ≠ .inBody v slot →
      let after := operation.apply session
      after.cellAt? (.inBody v slot) = some d ∧ after.heap.content d = session.heap.content d := by
  intro session
  have sound : session.Sound := sound_run operations (Session.sound_start settings addresses sink)
  refine ⟨fun p c h => sound.isScalar h, fun p q c hp hq => sound.position_eq hp hq, ?_⟩
  intro operation p c v slot d hwrites hc hd hne after
  have hscalar := sound.isScalar hc
  have hcell : c ≠ d := by
    intro heq
    exact hne (sound.position_eq hc (heq ▸ hd))
  -- The container of the other cell is no scalar, so it is not written to either.
  have hholder : d ∈ (session.heap.content v).cells := Content.mem_cells_of_cellAt? hd
  have hcontainer : c ≠ v := by
    rintro rfl
    obtain ⟨datum, position, hcontent⟩ := Content.eq_scalar_of_kind hscalar.kind_eq
    rw [hcontent] at hholder
    exact absurd hholder List.not_mem_nil
  constructor
  · have hsame := content_apply_of_writes hwrites hscalar.kind_eq
      (Heap.lt_size_of_mem_cells hholder) hcontainer
    rw [Session.cellAt?, hsame]
    exact hd
  · exact content_apply_of_writes hwrites hscalar.kind_eq (sound.isScalar hd).lt_size hcell

/-- An array of two elements, and a hash with a localized element. -/
def oneLocalized : List Operation :=
  [.newArray [.int 1, .int 2], .newHash [("a", .int 3)], .localizeElement ⟨4⟩ "a"]

/-- The old cell is in the snapshot and a fresh one in the hash. Writing to that one changes neither
the other elements nor what is kept for later. -/
theorem cells_have_one_position_oneLocalized :
    let session := run oneLocalized (.start {} default .silent)
    session.cellAt? (.inPending 0 (.key "a")) = some ⟨3⟩ ∧
    session.cellAt? (.inBody ⟨4⟩ (.key "a")) = some ⟨5⟩ ∧
    session.heap.IsScalar ⟨3⟩ ∧
    let after := (set ⟨5⟩ (.int 9)).apply session
    after.cellAt? (.inBody ⟨2⟩ (.index 1)) = some ⟨1⟩ ∧
      after.heap.content ⟨1⟩ = session.heap.content ⟨1⟩ := by
  intro session
  obtain ⟨hscalar, -, hwrite⟩ := cells_have_one_position {} default .silent oneLocalized
  have hkept : session.cellAt? (.inPending 0 (.key "a")) = some ⟨3⟩ := by decide +kernel
  have hfresh : session.cellAt? (.inBody ⟨4⟩ (.key "a")) = some ⟨5⟩ := by decide +kernel
  have hother : session.cellAt? (.inBody ⟨2⟩ (.index 1)) = some ⟨1⟩ := by decide +kernel
  exact ⟨hkept, hfresh, hscalar _ _ hkept,
    hwrite (.set ⟨5⟩ (.int 9)) _ _ _ _ _ rfl hfresh hother (by decide)⟩

end Operation

end DynamicValues
