import DynamicValues.Proofs.World.Refusal
import DynamicValues.World.Snapshot

/-!
# What is written to scalars

A scalar holds a datum and a match position, and only some operations write to either.
`Heap.WritesOnly` is a frame for these: from one heap to the next, the datum and the match position of
every other scalar stay, and no new scalar has a match position. What makes values or moves cells
writes to no scalar that is there, and a list of snapshots writes to the values of its own.

The values that a snapshot is of get back what it holds, datum and match position together
(`Snapshot.content_of_restoreAll`).
-/

set_option autoImplicit false

namespace DynamicValues

namespace Heap

variable {heap heap' heap'' : Heap} {v c : Value} {written : Value → Prop}

/-! ## Match positions -/

theorem position?_of_kind_ne (h : heap.kind v ≠ .scalar) : heap.position? v = none := by
  unfold position?
  split
  · next hcontent => exact absurd (by rw [kind, hcontent]; rfl) h
  · rfl

theorem position?_of_size_le (h : heap.size ≤ v.id) : heap.position? v = none := by
  rw [position?, content, body_of_size_le h]
  rfl

theorem content_of_position? {p : Nat} (h : heap.position? v = some p) :
    ∃ datum, heap.content v = .scalar datum (some p) := by
  unfold position? at h
  split at h
  · next datum position hcontent =>
    obtain rfl := h
    exact ⟨datum, hcontent⟩
  · exact absurd h (by simp)

/-- A scalar with a match position holds no more than its datum and that. -/
theorem content_eq_of_same {datum : Datum} {p : Nat} (h : heap.content v = .scalar datum (some p))
    (hdatum : heap'.datum? v = heap.datum? v) (hposition : heap'.position? v = some p) :
    heap'.content v = .scalar datum (some p) := by
  obtain ⟨datum', hcontent⟩ := content_of_position? hposition
  simp only [datum?, h, hcontent, Option.some.injEq] at hdatum
  rw [hcontent, hdatum]

/-- What is no scalar never has a match position. -/
theorem Evolves.position?_of_kind_ne (h : heap.Evolves heap') (hkind : heap.kind v ≠ .scalar) :
    heap'.position? v = none := by
  refine Heap.position?_of_kind_ne ?_
  rwa [h.kind v (lt_size_of_kind_ne_scalar hkind)]

theorem position?_assign_self (heap : Heap) (v : Value) (datum : Datum) :
    (heap.assign v datum).position? v = none := by
  have hrewrites := heap.rewrites_assign v datum
  by_cases hkind : heap.kind v = .scalar
  · by_cases hlt : v.id < heap.size
    · obtain ⟨old, position, hcontent⟩ := Content.eq_scalar_of_kind hkind
      rw [position?, content_assign_self hlt hcontent]
    · exact position?_of_size_le (hrewrites.size_eq ▸ Nat.le_of_not_lt hlt)
  · exact hrewrites.evolves.position?_of_kind_ne hkind

theorem lt_size_of_position? {p : Nat} (h : heap.position? v = some p) : v.id < heap.size := by
  by_contra hge
  rw [position?_of_size_le (Nat.le_of_not_lt hge)] at h
  exact absurd h (by simp)

/-- What is a scalar was a scalar. -/
theorem Evolves.exists_scalar {datum : Datum} {position : Option Nat} (h : heap.Evolves heap')
    (hlt : v.id < heap.size) (hcontent : heap'.content v = .scalar datum position) :
    ∃ datum position, heap.content v = .scalar datum position := by
  refine Content.eq_scalar_of_kind ?_
  show heap.kind v = .scalar
  rw [← h.kind v hlt, Heap.kind, hcontent]
  rfl

/-- Where there is a match position after a rewriting, there was a scalar before. -/
theorem Rewrites.exists_scalar {p : Nat} (h : heap.Rewrites v heap')
    (hposition : heap'.position? v = some p) :
    v.id < heap.size ∧ ∃ datum position, heap.content v = .scalar datum position := by
  have hlt : v.id < heap.size := h.size_eq ▸ lt_size_of_position? hposition
  obtain ⟨datum, hcontent⟩ := content_of_position? hposition
  exact ⟨hlt, h.evolves.exists_scalar hlt hcontent⟩

theorem position?_setPosition_self (hlt : v.id < heap.size) (hkind : heap.kind v = .scalar)
    (position : Option Nat) : (heap.setPosition v position).position? v = position := by
  obtain ⟨datum, old, hcontent⟩ := Content.eq_scalar_of_kind hkind
  rw [position?, content_setPosition_self hlt hcontent]

theorem eq_of_position?_setPosition {position : Option Nat} {p : Nat}
    (h : (heap.setPosition v position).position? v = some p) : position = some p := by
  obtain ⟨hlt, datum, old, hcontent⟩ := (heap.rewrites_setPosition v position).exists_scalar h
  rwa [position?_setPosition_self hlt (by rw [kind, hcontent]; rfl)] at h

/-! ## The frame -/

/-- From the first heap to the second one a datum or match position is written only where `written`
says so. A scalar that is new in the second heap has no match position, as there is none in the first
heap under its handle. -/
structure WritesOnly (heap : Heap) (written : Value → Prop) (heap' : Heap) : Prop where
  size : heap.size ≤ heap'.size
  position : ∀ c, ¬ written c → heap'.position? c = heap.position? c
  datum : ∀ c, ¬ written c → c.id < heap.size → heap'.datum? c = heap.datum? c

theorem position?_of_body_eq (h : heap'.body v = heap.body v) :
    heap'.position? v = heap.position? v := by
  rw [position?, content, h, position?, content]

theorem datum?_of_body_eq (h : heap'.body v = heap.body v) : heap'.datum? v = heap.datum? v := by
  rw [datum?, content, h, datum?, content]

namespace WritesOnly

theorem refl (heap : Heap) : heap.WritesOnly written heap :=
  ⟨Nat.le_refl _, fun _ _ => rfl, fun _ _ _ => rfl⟩

theorem trans (h : heap.WritesOnly written heap') (h' : heap'.WritesOnly written heap'') :
    heap.WritesOnly written heap'' where
  size := Nat.le_trans h.size h'.size
  position := fun c hc => (h'.position c hc).trans (h.position c hc)
  datum := fun c hc hlt =>
    (h'.datum c hc (Nat.lt_of_lt_of_le hlt h.size)).trans (h.datum c hc hlt)

/-- A new body has no match position. -/
theorem alloc (heap : Heap) {body : Body}
    (hnone : ∀ datum p, body.content ≠ .scalar datum (some p)) :
    heap.WritesOnly written (heap.alloc body).2 where
  size := by
    rw [size_alloc]
    exact Nat.le_succ _
  position := by
    intro c _
    by_cases hlt : c.id < heap.size
    · exact position?_of_body_eq (body_alloc_old hlt)
    · rw [position?_of_size_le (Nat.le_of_not_lt hlt)]
      by_contra hsome
      obtain ⟨p, hp⟩ := Option.ne_none_iff_exists'.1 hsome
      obtain ⟨datum, hcontent⟩ := content_of_position? hp
      have hlt' : c.id < heap.size + 1 := size_alloc heap body ▸ lt_size_of_position? hp
      obtain rfl : c = (heap.alloc body).1 := by
        cases c
        simp only [Heap.alloc, Value.mk.injEq]
        exact Nat.le_antisymm (Nat.le_of_lt_succ hlt') (Nat.le_of_not_lt hlt)
      rw [content, body_alloc_new] at hcontent
      exact hnone datum p hcontent
  datum := fun _ _ hlt => datum?_of_body_eq (body_alloc_old hlt)

theorem allocContent (heap : Heap) {content : Content}
    (hnone : ∀ datum p, content ≠ .scalar datum (some p)) :
    heap.WritesOnly written (heap.allocContent content).2 := alloc heap hnone

theorem setBody (hv : written v) (body : Body) : heap.WritesOnly written (heap.setBody v body) where
  size := by rw [size_setBody]
  position := fun _ hc => position?_of_body_eq (body_setBody_ne fun h => hc (h ▸ hv))
  datum := fun _ hc _ => datum?_of_body_eq (body_setBody_ne fun h => hc (h ▸ hv))

end WritesOnly

theorem Rewrites.writesOnly (h : heap.Rewrites v heap') (hv : written v) :
    heap.WritesOnly written heap' := by
  rcases h with rfl | ⟨content, -, rfl⟩
  · exact .refl _
  · exact .setBody hv _

/-- A container has no datum and no match position. -/
theorem Rewrites.writesOnly_container (h : heap.Rewrites v heap')
    (hsame : heap.kind v = .scalar → heap' = heap) : heap.WritesOnly written heap' := by
  by_cases hkind : heap.kind v = .scalar
  · rw [hsame hkind]
    exact .refl heap
  · constructor
    case size => exact h.size_eq.ge
    case position =>
      intro c _
      by_cases hc : v = c
      · rw [← hc, position?_of_kind_ne hkind, h.evolves.position?_of_kind_ne hkind]
      · exact position?_of_body_eq (h.body_ne hc)
    case datum =>
      intro c _ _
      by_cases hc : v = c
      · have hkind' : heap'.kind v ≠ .scalar := by
          rwa [h.evolves.kind v (lt_size_of_kind_ne_scalar hkind)]
        rw [← hc, datum?_eq_none_iff.2 hkind, datum?_eq_none_iff.2 hkind']
      · exact datum?_of_body_eq (h.body_ne hc)

/-! ## Containers -/

section Containers

variable (heap v)

theorem writesOnly_setItems (items : Array Value) :
    heap.WritesOnly written (heap.setItems v items) := by
  refine (heap.rewrites_setItems v items).writesOnly_container fun hkind => ?_
  obtain ⟨datum, position, hcontent⟩ := Content.eq_scalar_of_kind hkind
  rw [setItems, hcontent]

theorem writesOnly_setEntries (entries : Table Value) :
    heap.WritesOnly written (heap.setEntries v entries) := by
  refine (heap.rewrites_setEntries v entries).writesOnly_container fun hkind => ?_
  obtain ⟨datum, position, hcontent⟩ := Content.eq_scalar_of_kind hkind
  rw [setEntries, hcontent]

theorem writesOnly_setSlots (slots : GlobSlots) :
    heap.WritesOnly written (heap.setSlots v slots) := by
  refine (heap.rewrites_setSlots v slots).writesOnly_container fun hkind => ?_
  obtain ⟨datum, position, hcontent⟩ := Content.eq_scalar_of_kind hkind
  rw [setSlots, hcontent]

theorem writesOnly_newScalar (datum : Datum) : heap.WritesOnly written (heap.newScalar datum).2 :=
  .allocContent heap (by simp)

theorem writesOnly_emptyContent (kind : ContainerKind) :
    heap.WritesOnly written (heap.allocContent kind.emptyContent).2 :=
  .allocContent heap (by cases kind <;> simp [ContainerKind.emptyContent])

theorem writesOnly_newCells (data : List Datum) :
    heap.WritesOnly written (heap.newCells data).2 := by
  induction data generalizing heap with
  | nil => exact .refl heap
  | cons datum data ih => exact (heap.writesOnly_newScalar datum).trans (ih _)

theorem writesOnly_newEntries (entries : Table Value) (pairs : List (String × Datum)) :
    heap.WritesOnly written (heap.newEntries entries pairs).2 := by
  induction pairs generalizing heap entries with
  | nil => exact .refl heap
  | cons pair pairs ih => exact (heap.writesOnly_newScalar pair.2).trans (ih _ _)

theorem writesOnly_growItems (items : Array Value) (count : Nat) :
    heap.WritesOnly written (heap.growItems items count).2 := by
  induction count generalizing heap items with
  | zero => exact .refl heap
  | succ count ih => exact (heap.writesOnly_newScalar .undef).trans (ih _ _)

theorem writesOnly_newArray (data : List Datum) :
    heap.WritesOnly written (heap.newArray data).2 :=
  (heap.writesOnly_newCells data).trans (.allocContent _ (by simp))

theorem writesOnly_newHash (pairs : List (String × Datum)) :
    heap.WritesOnly written (heap.newHash pairs).2 :=
  (heap.writesOnly_newEntries .empty pairs).trans (.allocContent _ (by simp))

theorem writesOnly_arrayElement (index : Nat) :
    heap.WritesOnly written (heap.arrayElement v index).2 := by
  unfold arrayElement
  split
  · exact .refl heap
  · exact (heap.writesOnly_growItems _ _).trans (writesOnly_setItems _ v _)

theorem writesOnly_push (datum : Datum) : heap.WritesOnly written (heap.push v datum) := by
  unfold push
  split
  · exact .refl heap
  · exact (heap.writesOnly_newScalar datum).trans (writesOnly_setItems _ v _)

theorem writesOnly_pop : heap.WritesOnly written (heap.pop v).2 := by
  unfold pop
  split
  · exact .refl heap
  · exact heap.writesOnly_setItems v _

theorem writesOnly_hashElement (key : String) :
    heap.WritesOnly written (heap.hashElement v key).2 := by
  unfold hashElement
  split
  · exact .refl heap
  · split
    · exact .refl heap
    · exact (heap.writesOnly_newScalar .undef).trans (writesOnly_setEntries _ v _)

theorem writesOnly_hashInsert (key : String) (datum : Datum) :
    heap.WritesOnly written (heap.hashInsert v key datum) := by
  unfold hashInsert
  split
  · exact .refl heap
  · exact (heap.writesOnly_newScalar datum).trans (writesOnly_setEntries _ v _)

theorem writesOnly_hashRemove (key : String) :
    heap.WritesOnly written (heap.hashRemove v key).2 := by
  unfold hashRemove
  split
  · exact .refl heap
  · exact heap.writesOnly_setEntries v _

theorem writesOnly_globVivify (kind : ContainerKind) :
    heap.WritesOnly written (heap.globVivify v kind).2 := by
  unfold globVivify
  split
  · exact .refl heap
  · split
    · exact .refl heap
    · exact (heap.writesOnly_emptyContent kind).trans (writesOnly_setSlots _ v _)

theorem writesOnly_globSet (content : Value) :
    heap.WritesOnly written (heap.globSet v content) := by
  unfold globSet
  split
  · exact heap.writesOnly_setSlots v _
  · exact heap.writesOnly_setSlots v _
  · exact .refl heap

theorem writesOnly_assignArray (data : List Datum) :
    heap.WritesOnly written (heap.assignArray v data) :=
  (heap.writesOnly_newCells data).trans (writesOnly_setItems _ v _)

theorem writesOnly_assignHash (pairs : List (String × Datum)) :
    heap.WritesOnly written (heap.assignHash v pairs) :=
  (heap.writesOnly_newEntries .empty pairs).trans (writesOnly_setEntries _ v _)

end Containers

/-! ## Classes and copies -/

theorem content_setBlessing (heap : Heap) (v c : Value) (blessing : Option StashId) :
    (heap.setBlessing v blessing).content c = heap.content c := by
  by_cases hc : v = c
  · subst hc
    by_cases hlt : v.id < heap.size
    · rw [setBlessing, content, body_setBody_self hlt, content]
    · rw [setBlessing, setBody_of_size_le (Nat.le_of_not_lt hlt)]
  · rw [setBlessing, content, body_setBody_ne hc, content]

theorem writesOnly_setBlessing (heap : Heap) (v : Value) (blessing : Option StashId) :
    heap.WritesOnly written (heap.setBlessing v blessing) where
  size := by rw [setBlessing, size_setBody]
  position := fun c _ => by rw [position?, content_setBlessing, position?]
  datum := fun c _ _ => by rw [datum?, content_setBlessing, datum?]

end Heap

theorem Tour.copyContent_ne {tour : Tour} {size hops p : Nat} {content : Content} {datum : Datum} :
    tour.copyContent size hops content ≠ .scalar datum (some p) := by
  cases content with
  | scalar datum position => cases datum <;> simp [copyContent]
  | array | hash | code | glob | handle | regex => simp [copyContent]

namespace Heap

variable {heap heap' : Heap} {v : Value} {written : Value → Prop}

/-- **No copy has a match position.** -/
theorem position?_clone_of_size_le {order : HashOrder} {hops : Nat} {c : Value}
    (h : heap.size ≤ c.id) : (heap.clone order v hops).2.position? c = none := by
  by_contra hsome
  obtain ⟨p, hp⟩ := Option.ne_none_iff_exists'.1 hsome
  obtain ⟨datum, hcontent⟩ := content_of_position? hp
  have hlt := lt_size_of_position? hp
  obtain ⟨n, hn⟩ : ∃ n, c = ⟨heap.size + n⟩ := ⟨c.id - heap.size, by cases c; simp_all⟩
  have hvisit : n < (heap.tour order v hops).visits.size := by
    rw [hn, size_clone] at hlt
    exact Nat.lt_of_add_lt_add_left hlt
  rw [hn, content, body_clone_copy (Array.getElem?_eq_getElem hvisit)] at hcontent
  exact Tour.copyContent_ne hcontent

theorem writesOnly_clone (heap : Heap) (order : HashOrder) (v : Value) (hops : Nat) :
    heap.WritesOnly written (heap.clone order v hops).2 where
  size := (heap.evolves_clone order v hops).size
  position := by
    intro c _
    by_cases hlt : c.id < heap.size
    · exact position?_of_body_eq (body_clone_old hlt)
    · have hge := Nat.le_of_not_lt hlt
      rw [position?_clone_of_size_le hge, position?_of_size_le hge]
  datum := fun _ _ hlt => datum?_of_body_eq (body_clone_old hlt)

/-! ## Scalars -/

section Scalars

variable (heap) (hv : written v)
include hv

theorem writesOnly_assign (datum : Datum) : heap.WritesOnly written (heap.assign v datum) :=
  (heap.rewrites_assign v datum).writesOnly hv

theorem writesOnly_setPosition (position : Option Nat) :
    heap.WritesOnly written (heap.setPosition v position) :=
  (heap.rewrites_setPosition v position).writesOnly hv

theorem writesOnly_undefine : heap.WritesOnly written (heap.undefine v).2 := by
  unfold undefine
  split
  · exact heap.writesOnly_assign hv _
  · exact heap.writesOnly_newScalar _

theorem writesOnly_vivifyUndef {kind : ContainerKind} {container : Value}
    (h : heap.vivifyUndef v kind = some (container, heap')) : heap.WritesOnly written heap' := by
  unfold vivifyUndef at h
  split at h
  · obtain ⟨rfl, rfl⟩ := Prod.mk.inj (Option.some.inj h)
    exact (heap.writesOnly_emptyContent kind).trans (writesOnly_assign _ hv _)
  · exact absurd h (by simp)

theorem writesOnly_localize : heap.WritesOnly written (heap.localize v).2 := by
  unfold localize
  split
  · exact heap.writesOnly_assign hv _
  · exact heap.writesOnly_setItems v _
  · exact heap.writesOnly_setEntries v _
  · exact heap.writesOnly_setSlots v _
  · exact .refl heap
  · exact .refl heap
  · exact .refl heap

end Scalars

/-- The cell that is set aside is not written to. -/
theorem writesOnly_localizeElement {hash cell : Value} {key : String} {snapshot : Snapshot}
    (h : heap.localizeElement hash key = .ok ((snapshot, cell), heap')) :
    heap.WritesOnly written heap' := by
  unfold localizeElement at h
  split at h
  · exact absurd h (by simp)
  · next entries hentries =>
    obtain ⟨-, rfl⟩ := by simpa using h
    exact (heap.writesOnly_newScalar _).trans (writesOnly_setEntries _ hash _)

/-- Nothing that is localized keeps a match position. -/
theorem position?_localize_self (heap : Heap) (v : Value) :
    (heap.localize v).2.position? v = none := by
  by_cases hkind : heap.kind v = .scalar
  · obtain ⟨datum, position, hcontent⟩ := Content.eq_scalar_of_kind hkind
    rw [localize, hcontent]
    exact heap.position?_assign_self v _
  · exact (heap.evolves_localize v).position?_of_kind_ne hkind

theorem position?_undefine_self (heap : Heap) (v : Value) :
    (heap.undefine v).2.position? v = none := by
  cases hdatum : heap.datum? v with
  | some datum =>
    rw [undefine, hdatum]
    exact heap.position?_assign_self v _
  | none => exact (heap.evolves_undefine v).position?_of_kind_ne (datum?_eq_none_iff.1 hdatum)

end Heap

/-! ## Snapshots -/

namespace Snapshot

variable {heap : Heap} {c : Value} {content : Content} {snapshot : Snapshot}
  {snapshots : List Snapshot} {written : Value → Prop}

/-- The value that gets its content back, unless that is only cells or slots. -/
def putsBack? : Snapshot → Option (Value × Content)
  | scalar v datum position => some (v, .scalar datum position)
  | whole v body => some (v, body.content)
  | _ => none

/-- One of the snapshots has a content for this value. -/
def Cover (snapshots : List Snapshot) (c : Value) : Prop :=
  ∃ snapshot ∈ snapshots, ∃ content, snapshot.putsBack? = some (c, content)

theorem writesOnly_restore (heap : Heap)
    (h : ∀ c content, snapshot.putsBack? = some (c, content) → written c) :
    heap.WritesOnly written (snapshot.restore heap) := by
  cases snapshot with
  | scalar v datum position =>
    have hv := h v _ rfl
    exact (heap.writesOnly_assign hv datum).trans (Heap.writesOnly_setPosition _ hv position)
  | array v items => exact heap.writesOnly_setItems v items
  | hash v entries => exact heap.writesOnly_setEntries v entries
  | glob v slots => exact heap.writesOnly_setSlots v slots
  | whole v body => exact .setBody (h v _ rfl) body
  | element v key previous =>
    simp only [restore]
    split
    · exact heap.writesOnly_setEntries v _
    · exact heap.writesOnly_setEntries v _
    · exact .refl heap

theorem writesOnly_restoreAll (heap : Heap) (h : ∀ c, Cover snapshots c → written c) :
    heap.WritesOnly written (restoreAll heap snapshots) := by
  induction snapshots generalizing heap with
  | nil => exact .refl heap
  | cons snapshot snapshots ih =>
    refine (writesOnly_restore heap fun c content hputs => ?_).trans (ih _ fun c hc => ?_)
    · exact h c ⟨snapshot, List.mem_cons_self, content, hputs⟩
    · obtain ⟨other, hmem, hputs⟩ := hc
      exact h c ⟨other, List.mem_cons_of_mem _ hmem, hputs⟩

/-- A match position after a snapshot was restored is the one in the snapshot. -/
theorem content_of_restore {p : Nat} (hputs : snapshot.putsBack? = some (c, content))
    (hposition : (snapshot.restore heap).position? c = some p) :
    (snapshot.restore heap).content c = content := by
  cases snapshot with
  | scalar v datum position =>
    obtain ⟨rfl, rfl⟩ := Prod.mk.inj (Option.some.inj hputs)
    have hassign := heap.rewrites_assign v datum
    obtain ⟨hlt, old, position', hassigned⟩ :=
      (Heap.rewrites_setPosition _ v position).exists_scalar hposition
    rw [hassign.size_eq] at hlt
    obtain ⟨before, position'', hbefore⟩ := hassign.evolves.exists_scalar hlt hassigned
    have hthen := Heap.content_assign_self hlt hbefore datum
    exact Heap.content_setPosition_self (hassign.size_eq ▸ hlt) hthen position
  | whole v body =>
    obtain ⟨rfl, rfl⟩ := Prod.mk.inj (Option.some.inj hputs)
    have hlt : v.id < heap.size := by
      have hafter := Heap.lt_size_of_position? hposition
      rwa [restore, Heap.size_setBody] at hafter
    exact congrArg Body.content (Heap.body_setBody_self hlt)
  | array | hash | glob | element => exact absurd hputs (by simp [putsBack?])

/-- **Datum and match position are put back together**: after restoring, a match position of a value
is, with the datum there, what one of its snapshots holds. -/
theorem content_of_restoreAll {p : Nat} (hcover : Cover snapshots c)
    (hposition : (restoreAll heap snapshots).position? c = some p) :
    ∃ snapshot ∈ snapshots, ∃ datum, snapshot.putsBack? = some (c, .scalar datum (some p)) ∧
      (restoreAll heap snapshots).content c = .scalar datum (some p) := by
  induction snapshots generalizing heap with
  | nil =>
    obtain ⟨_, hmem, -⟩ := hcover
    exact absurd hmem List.not_mem_nil
  | cons snapshot snapshots ih =>
    by_cases hlater : Cover snapshots c
    · obtain ⟨other, hmem, hother⟩ := ih hlater hposition
      exact ⟨other, List.mem_cons_of_mem _ hmem, hother⟩
    · -- The others leave what the first one puts back.
      obtain ⟨content, hputs⟩ : ∃ content, snapshot.putsBack? = some (c, content) := by
        obtain ⟨other, hmem, content, hputs⟩ := hcover
        rcases List.mem_cons.1 hmem with rfl | hmem
        · exact ⟨content, hputs⟩
        · exact absurd ⟨other, hmem, content, hputs⟩ hlater
      have hrest : (snapshot.restore heap).WritesOnly (Cover snapshots)
          (restoreAll (snapshot.restore heap) snapshots) := writesOnly_restoreAll _ fun _ h => h
      have hfirst : (snapshot.restore heap).position? c = some p :=
        (hrest.position c hlater).symm.trans hposition
      obtain ⟨datum, hcontent⟩ := Heap.content_of_position? hfirst
      obtain rfl := (content_of_restore hputs hfirst).symm.trans hcontent
      have hlt : c.id < (snapshot.restore heap).size := Heap.lt_size_of_position? hfirst
      exact ⟨snapshot, List.mem_cons_self, datum, hputs,
        Heap.content_eq_of_same hcontent (hrest.datum c hlater hlt) hposition⟩

/-- What localizing a value puts back is what it holds. -/
theorem putsBack?_localize {v : Value} (h : (heap.localize v).1.putsBack? = some (c, content)) :
    c = v ∧ content = heap.content v := by
  unfold Heap.localize at h
  cases hcontent : heap.content v <;> rw [hcontent] at h
  case scalar =>
    obtain ⟨rfl, rfl⟩ := Prod.mk.inj (Option.some.inj h)
    exact ⟨rfl, rfl⟩
  case code | handle | regex =>
    obtain ⟨rfl, rfl⟩ := Prod.mk.inj (Option.some.inj h)
    exact ⟨rfl, hcontent⟩
  case array | hash | glob => exact absurd h (by simp [putsBack?])

end Snapshot

end DynamicValues
