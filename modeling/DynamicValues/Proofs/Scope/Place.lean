import DynamicValues.Proofs.Scope.Script

/-!
# Places and their snapshots

Snapshots may **overlap**: a hash and one of its elements, the same element twice, an element and
then the whole hash. A `Place` is the unit in which they overlap: a scalar, an array, the slots of a
glob, or a hash at one key.

A snapshot that covers a place restores it to what it was when the snapshot was taken
(`restore_agrees`), and one that does not cover it leaves it alone (`restore_agrees_of_not_covers`).
Both ask only that the heap has evolved since: the place is still there, whatever it holds by now.
-/

set_option autoImplicit false

namespace DynamicValues

/-! ## Places -/

/-- A part of the heap that is saved and restored as one. -/
inductive Place where
  | scalar (v : Value)
  | array (v : Value)
  /-- A hash at one key. -/
  | entry (hash : Value) (key : String)
  /-- The slots of a glob. -/
  | slots (glob : Value)
  deriving DecidableEq

namespace Place

/-- The value that a place belongs to. -/
def holder : Place → Value
  | scalar v => v
  | array v => v
  | entry hash _ => hash
  | slots glob => glob

def kind : Place → Kind
  | scalar _ => .scalar
  | array _ => .array
  | entry _ _ => .hash
  | slots _ => .glob

/-- The value that the place belongs to is in the heap and has the right kind. -/
def In (place : Place) (heap : Heap) : Prop :=
  place.holder.id < heap.size ∧ heap.kind place.holder = place.kind

/-- Two heaps hold the same at a place: the datum and the match position of a scalar, the cells of
an array in order, the cell under a key or none, the slots of a glob. -/
def Agrees (heap heap' : Heap) : Place → Prop
  | scalar v => heap'.datum? v = heap.datum? v ∧ heap'.position? v = heap.position? v
  | array v => heap'.items? v = heap.items? v
  | entry hash key => heap'.hashGet? hash key = heap.hashGet? hash key
  | slots glob => heap'.slots? glob = heap.slots? glob

theorem In.evolves {place : Place} {heap heap' : Heap} (h : place.In heap)
    (evolves : heap.Evolves heap') : place.In heap' :=
  ⟨Nat.lt_of_lt_of_le h.1 evolves.size, (evolves.kind _ h.1).trans h.2⟩

theorem Agrees.trans {place : Place} {heap heap' heap'' : Heap} (h : place.Agrees heap heap')
    (h' : place.Agrees heap' heap'') : place.Agrees heap heap'' := by
  cases place with
  | scalar v => exact ⟨h'.1.trans h.1, h'.2.trans h.2⟩
  | array v => exact Eq.trans h' h
  | entry hash key => exact Eq.trans h' h
  | slots glob => exact Eq.trans h' h

theorem agrees_of_content_eq {place : Place} {heap heap' : Heap}
    (h : heap'.content place.holder = heap.content place.holder) : place.Agrees heap heap' := by
  cases place with
  | scalar v => exact ⟨by simp_all [Heap.datum?, holder], by simp_all [Heap.position?, holder]⟩
  | array v => simp_all [Agrees, Heap.items?, holder]
  | entry hash key => simp_all [Agrees, Heap.hashGet?, Heap.entries?, holder]
  | slots glob => simp_all [Agrees, Heap.slots?, holder]

end Place

namespace Target

def holder : Target → Value
  | value v => v
  | element hash _ => hash

/-- A value covers all that belongs to it. -/
def covers : Target → Place → Bool
  | value v, place => place.holder = v
  | element hash key, place => place = .entry hash key

end Target

/-! ## Restoring one snapshot -/

namespace Moment

variable {moment : Moment} {heap : Heap}

/-- What is restored has the kind that is there. -/
theorem evolves_restore (evolves : moment.heap.Evolves heap) :
    heap.Evolves (moment.snapshot.restore heap) := by
  obtain ⟨saved, target⟩ := moment
  cases target with
  | value v =>
    -- A body that is not emptied is restored as a whole, with the content it had then.
    have hwhole : saved.kind v ≠ .scalar → heap.Evolves (heap.setBody v (saved.body v)) := by
      intro hkind
      exact .setBody (evolves.kind v (Heap.lt_size_of_kind_ne_scalar hkind)).symm
    simp only [snapshot, Heap.localize]
    split
    · exact (Heap.rewrites_assign _ _ _).evolves.trans (Heap.rewrites_setPosition _ _ _).evolves
    · exact (Heap.rewrites_setItems _ _ _).evolves
    · exact (Heap.rewrites_setEntries _ _ _).evolves
    · exact (Heap.rewrites_setSlots _ _ _).evolves
    · next h => exact hwhole (by simp [Heap.kind, h, Content.kind])
    · next h => exact hwhole (by simp [Heap.kind, h, Content.kind])
    · next h => exact hwhole (by simp [Heap.kind, h, Content.kind])
  | element hash key =>
    simp only [snapshot, Snapshot.restore]
    split
    · exact (Heap.rewrites_setEntries _ _ _).evolves
    · exact (Heap.rewrites_setEntries _ _ _).evolves
    · exact .refl heap

/-- Restoring leaves other values alone. -/
theorem content_restore_ne {w : Value} (h : moment.target.holder ≠ w) :
    (moment.snapshot.restore heap).content w = heap.content w := by
  obtain ⟨saved, target⟩ := moment
  cases target with
  | value v =>
    have hne : v ≠ w := h
    have hwhole : (heap.setBody v (saved.body v)).content w = heap.content w := by
      rw [Heap.content, Heap.body_setBody_ne hne, Heap.content]
    simp only [snapshot, Heap.localize]
    split
    · exact ((Heap.rewrites_setPosition _ _ _).content_ne h).trans
        ((Heap.rewrites_assign _ _ _).content_ne h)
    · exact (Heap.rewrites_setItems _ _ _).content_ne h
    · exact (Heap.rewrites_setEntries _ _ _).content_ne h
    · exact (Heap.rewrites_setSlots _ _ _).content_ne h
    · exact hwhole
    · exact hwhole
    · exact hwhole
  | element hash key =>
    simp only [snapshot, Snapshot.restore]
    split
    · exact (Heap.rewrites_setEntries _ _ _).content_ne h
    · exact (Heap.rewrites_setEntries _ _ _).content_ne h
    · rfl

/-- A localized value gets back what belongs to it. -/
theorem restore_value_agrees {saved heap : Heap} {place : Place} (inside : place.In saved)
    (evolves : saved.Evolves heap) :
    place.Agrees saved ((Moment.mk saved (.value place.holder)).snapshot.restore heap) := by
  obtain ⟨hlt, hkind⟩ := inside.evolves evolves
  obtain ⟨-, hsaved⟩ := inside
  cases place with
  | scalar v =>
    obtain ⟨datum, position, hthen⟩ := Content.eq_scalar_of_kind hsaved
    obtain ⟨datum', position', hnow⟩ := Content.eq_scalar_of_kind hkind
    refine Place.agrees_of_content_eq ?_
    simp only [Place.holder] at hlt hthen hnow ⊢
    simp only [snapshot, Heap.localize, hthen, Snapshot.restore]
    -- Assigning forgets the position, which is written after it.
    have hassigned := Heap.content_assign_self hlt hnow datum
    have hlt' : v.id < (heap.assign v datum).size :=
      Nat.lt_of_lt_of_le hlt (heap.rewrites_assign v datum).evolves.size
    exact Heap.content_setPosition_self hlt' hassigned position
  | array v =>
    obtain ⟨items, hthen⟩ := Content.eq_array_of_kind hsaved
    obtain ⟨items', hnow⟩ := Content.eq_array_of_kind hkind
    refine Place.agrees_of_content_eq ?_
    simp only [Place.holder] at hlt hthen hnow ⊢
    simp only [snapshot, Heap.localize, hthen, Snapshot.restore]
    exact Heap.content_setItems_self hlt hnow items
  | entry hash key =>
    obtain ⟨entries, hthen⟩ := Content.eq_hash_of_kind hsaved
    obtain ⟨entries', hnow⟩ := Content.eq_hash_of_kind hkind
    refine Place.agrees_of_content_eq ?_
    simp only [Place.holder] at hlt hthen hnow ⊢
    simp only [snapshot, Heap.localize, hthen, Snapshot.restore]
    exact Heap.content_setEntries_self hlt hnow entries
  | slots glob =>
    obtain ⟨package, name, slots, hthen⟩ := Content.eq_glob_of_kind hsaved
    obtain ⟨package', name', slots', hnow⟩ := Content.eq_glob_of_kind hkind
    -- Not the whole content: the names are those that the glob has by now.
    simp only [Place.holder] at hlt hthen hnow ⊢
    simp only [snapshot, Heap.localize, hthen, Snapshot.restore, Place.Agrees, Heap.slots?]
    rw [Heap.content_setSlots_self hlt hnow slots]

/-- A localized element gets its cell back, or is taken out again. -/
theorem restore_element_agrees {saved heap : Heap} {hash : Value} {key : String}
    (inside : (Place.entry hash key).In saved) (evolves : saved.Evolves heap) :
    (Place.entry hash key).Agrees saved
      ((Moment.mk saved (.element hash key)).snapshot.restore heap) := by
  obtain ⟨hlt, hkind⟩ := inside.evolves evolves
  obtain ⟨entries, hnow⟩ := Content.eq_hash_of_kind hkind
  simp only [Place.holder] at hlt hnow
  have hentries : heap.entries? hash = some entries := by rw [Heap.entries?, hnow]
  have hafter := Heap.content_setEntries_self hlt hnow
  simp only [snapshot, Snapshot.restore, Place.Agrees, hentries]
  cases saved.hashGet? hash key with
  | some cell =>
    simp [Heap.hashGet?, Heap.entries?, hafter]
  | none =>
    simp [Heap.hashGet?, Heap.entries?, hafter]

/-- **A snapshot restores the places it covers** to what they were when it was taken. -/
theorem restore_agrees {place : Place} (inside : place.In moment.heap)
    (evolves : moment.heap.Evolves heap) (covers : moment.target.covers place) :
    place.Agrees moment.heap (moment.snapshot.restore heap) := by
  obtain ⟨saved, target⟩ := moment
  cases target with
  | value v =>
    have hholder : place.holder = v := of_decide_eq_true covers
    subst hholder
    exact restore_value_agrees inside evolves
  | element hash key =>
    have hplace : place = .entry hash key := of_decide_eq_true covers
    subst hplace
    exact restore_element_agrees inside evolves

/-- A hash at one key is restored without touching the other keys. -/
theorem restore_element_agrees_ne {saved heap : Heap} {hash : Value} {key other : String}
    (inside : (Place.entry hash other).In heap) (hne : other ≠ key) :
    (Place.entry hash other).Agrees heap
      ((Moment.mk saved (.element hash key)).snapshot.restore heap) := by
  obtain ⟨hlt, hkind⟩ := inside
  obtain ⟨entries, hnow⟩ := Content.eq_hash_of_kind hkind
  simp only [Place.holder] at hlt hnow
  have hentries : heap.entries? hash = some entries := by rw [Heap.entries?, hnow]
  have hafter := Heap.content_setEntries_self hlt hnow
  simp only [snapshot, Snapshot.restore, Place.Agrees, hentries]
  cases saved.hashGet? hash key with
  | some cell => simp [Heap.hashGet?, Heap.entries?, hafter, hnow, Table.get?_insert_ne _ _ hne]
  | none => simp [Heap.hashGet?, Heap.entries?, hafter, hnow, Table.get?_erase_ne _ hne]

/-- Only a hash has elements to restore. -/
theorem restore_element_of_kind_ne {saved heap : Heap} {hash : Value} {key : String}
    (hkind : heap.kind hash ≠ .hash) :
    (Moment.mk saved (.element hash key)).snapshot.restore heap = heap := by
  have hentries : heap.entries? hash = none := by
    unfold Heap.entries?
    split
    · next h => exact absurd (by simp [Heap.kind, h, Content.kind]) hkind
    · rfl
  simp only [snapshot, Snapshot.restore, hentries]

/-- **A snapshot leaves all other places alone.** -/
theorem restore_agrees_of_not_covers {place : Place} (inside : place.In heap)
    (covers : moment.target.covers place = false) :
    place.Agrees heap (moment.snapshot.restore heap) := by
  obtain ⟨saved, target⟩ := moment
  cases target with
  | value v =>
    have hholder : place.holder ≠ v := of_decide_eq_false covers
    exact Place.agrees_of_content_eq (content_restore_ne hholder.symm)
  | element hash key =>
    have hplace : place ≠ .entry hash key := of_decide_eq_false covers
    by_cases hholder : hash = place.holder
    · -- The same hash at another key, or a value that is no hash.
      subst hholder
      cases place with
      | entry hash other =>
        exact restore_element_agrees_ne inside fun e => hplace (by rw [e]; rfl)
      | _ =>
        rw [restore_element_of_kind_ne (by rw [inside.2]; simp [Place.kind])]
        exact Place.agrees_of_content_eq rfl
    · exact Place.agrees_of_content_eq (content_restore_ne hholder)

end Moment

end DynamicValues
