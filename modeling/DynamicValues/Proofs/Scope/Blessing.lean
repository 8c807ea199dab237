import DynamicValues.Proofs.Scope.Restore

/-!
# Classes under localization

Restoring a snapshot writes saved contents back. Of a scalar, an array, a hash, a glob or an element
it writes the content only, and the class of the body stays what it is by then. Subroutines, handles
and patterns are saved as whole bodies, and a whole body is written back **with its class**, so a
blessing between the two is undone.

`Moment.savesBody` says which localizations save a class. They are all that can move one: closing a
scope leaves every class alone exactly if each body saved as a whole has, at the end, the class that
it had at the oldest such localization (`Snapshot.keeps_blessing_iff`).
-/

set_option autoImplicit false

namespace DynamicValues

/-- Localizing a value of this kind empties it. Of the other kinds the whole body is saved. -/
def Kind.emptied : Kind → Bool
  | scalar => true
  | array => true
  | hash => true
  | glob => true
  | code => false
  | handle => false
  | regex => false

/-- The snapshot holds the whole body of `w`, with its class. -/
def Moment.savesBody (moment : Moment) (w : Value) : Bool :=
  moment.target = .value w ∧ (moment.heap.kind w).emptied = false

/-! ## Classes and contents -/

namespace Heap

variable {heap heap' : Heap} {v : Value}

theorem blessing_setBody (heap : Heap) (v w : Value) (body : Body) :
    (heap.setBody v body).blessing w =
      if v = w ∧ v.id < heap.size then body.blessing else heap.blessing w := by
  by_cases hvw : v = w
  · subst hvw
    by_cases hlt : v.id < heap.size
    · rw [if_pos ⟨rfl, hlt⟩, blessing, body_setBody_self hlt]
    · rw [if_neg fun h => hlt h.2, setBody_of_size_le (Nat.le_of_not_lt hlt)]
  · rw [if_neg fun h => hvw h.1, blessing, body_setBody_ne hvw, blessing]

/-- A new content leaves all classes alone. -/
theorem Rewrites.blessing_eq (h : heap.Rewrites v heap') (w : Value) :
    heap'.blessing w = heap.blessing w := by
  rcases h with rfl | ⟨content, -, rfl⟩
  · rfl
  · rw [setContent, blessing_setBody]
    split
    · next hvw => rw [← hvw.1, blessing]
    · rfl

end Heap

/-! ## Restoring -/

namespace Moment

variable {heap : Heap}

theorem savesBody_of_emptied {saved : Heap} {v : Value} (hkind : (saved.kind v).emptied = true)
    (w : Value) : savesBody ⟨saved, .value v⟩ w = false := by
  refine decide_eq_false ?_
  rintro ⟨htarget, hw⟩
  obtain rfl := Target.value.inj htarget
  exact absurd hw (by simp [hkind])

/-- What is saved of a value that localizing empties is its content. -/
theorem blessing_restore_of_emptied {saved : Heap} {v : Value}
    (hkind : (saved.kind v).emptied = true) (w : Value) :
    ((saved.localize v).1.restore heap).blessing w = heap.blessing w := by
  unfold Heap.kind at hkind
  unfold Heap.localize
  cases hcontent : saved.content v with
  | scalar datum position =>
    have hassign := (heap.rewrites_assign v datum).blessing_eq w
    exact ((Heap.rewrites_setPosition _ v position).blessing_eq w).trans hassign
  | array items => exact (heap.rewrites_setItems v items).blessing_eq w
  | hash entries => exact (heap.rewrites_setEntries v entries).blessing_eq w
  | glob package name slots => exact (heap.rewrites_setSlots v slots).blessing_eq w
  | code | handle | regex =>
    rw [hcontent] at hkind
    exact absurd hkind (by simp [Content.kind, Kind.emptied])

/-- Of the other kinds it is the body. -/
theorem snapshot_of_not_emptied {saved : Heap} {v : Value}
    (hkind : (saved.kind v).emptied = false) : (saved.localize v).1 = .whole v (saved.body v) := by
  unfold Heap.kind at hkind
  unfold Heap.localize
  cases hcontent : saved.content v with
  | code | handle | regex => rfl
  | scalar | array | hash | glob =>
    rw [hcontent] at hkind
    exact absurd hkind (by simp [Content.kind, Kind.emptied])

/-- **What restoring a snapshot does to classes**: a body that was saved as a whole gets back the
class it had, and nothing else changes its class. -/
theorem blessing_restore (moment : Moment) (evolves : moment.heap.Evolves heap) (w : Value) :
    (moment.snapshot.restore heap).blessing w =
      if moment.savesBody w then moment.heap.blessing w else heap.blessing w := by
  obtain ⟨saved, target⟩ := moment
  cases target with
  | value v =>
    show ((saved.localize v).1.restore heap).blessing w = _
    cases hkind : (saved.kind v).emptied with
    | true =>
      rw [blessing_restore_of_emptied hkind, savesBody_of_emptied hkind w]
      rfl
    | false =>
      -- Only a scalar is found through a handle that was never given out.
      have hlt : v.id < heap.size := by
        refine Nat.lt_of_lt_of_le (Heap.lt_size_of_kind_ne_scalar ?_) evolves.size
        intro hscalar
        rw [hscalar] at hkind
        exact absurd hkind (by simp [Kind.emptied])
      rw [snapshot_of_not_emptied hkind, Snapshot.restore, Heap.blessing_setBody]
      by_cases hvw : v = w
      · subst hvw
        simp [savesBody, hkind, hlt, Heap.blessing]
      · simp [savesBody, hvw]
  | element hash key =>
    have hnot : savesBody ⟨saved, .element hash key⟩ w = false := by simp [savesBody]
    rw [hnot]
    simp only [snapshot, Snapshot.restore]
    split
    · exact (Heap.rewrites_setEntries _ _ _).blessing_eq w
    · exact (Heap.rewrites_setEntries _ _ _).blessing_eq w
    · rfl

end Moment

/-- After a frame is restored, a body has the class that the **oldest** snapshot of the whole body
saved; without such a snapshot it keeps the class it has. -/
theorem blessing_restoreAll {moments : List Moment} {heap : Heap}
    (evolves : ∀ moment ∈ moments, moment.heap.Evolves heap) (w : Value) :
    (Snapshot.restoreAll heap (frameOf moments)).blessing w =
      match moments.find? (·.savesBody w) with
      | some first => first.heap.blessing w
      | none => heap.blessing w := by
  induction moments with
  | nil => rfl
  | cons moment moments ih =>
    -- The oldest snapshot is restored last, to a heap that the others were restored to.
    have hothers : ∀ other ∈ moments, other.heap.Evolves heap :=
      fun other hother => evolves other (List.mem_cons_of_mem _ hother)
    have hnow : moment.heap.Evolves (Snapshot.restoreAll heap (frameOf moments)) :=
      (evolves moment List.mem_cons_self).trans (evolves_restoreAll hothers)
    rw [restoreAll_frameOf_cons, moment.blessing_restore hnow, List.find?_cons]
    cases moment.savesBody w with
    | true => rfl
    | false => exact ih hothers

/-! ## When classes are left alone -/

/-- Restoring a frame leaves all classes alone exactly if every body has the class that the oldest
snapshot of the whole body saved. -/
theorem restoreAll_keeps_blessing_iff {moments : List Moment} {heap : Heap}
    (evolves : ∀ moment ∈ moments, moment.heap.Evolves heap) :
    (∀ w, (Snapshot.restoreAll heap (frameOf moments)).blessing w = heap.blessing w) ↔
      ∀ w first, moments.find? (·.savesBody w) = some first →
        heap.blessing w = first.heap.blessing w := by
  constructor
  · intro hkeeps w first hfirst
    rw [← hkeeps w, blessing_restoreAll evolves, hfirst]
  · intro hsame w
    rw [blessing_restoreAll evolves]
    cases hfind : moments.find? (·.savesBody w) with
    | none => rfl
    | some first => exact (hsame w first hfind).symm

/-- **Restoring leaves all classes alone exactly if no body saved as a whole was blessed anew.** For
one snapshot: the value is of a kind that localizing empties, or it has the class again that it had
then. For the scope of a script, whatever that does and however it ends: each body that it localized
as a whole has, when the scope closes, the class that it had at the first such localization. -/
theorem Snapshot.keeps_blessing_iff {saved later : Heap} (v : Value) (evolves : saved.Evolves later)
    {α : Type} (script : Script α) (world : World) :
    ((∀ w, ((saved.localize v).1.restore later).blessing w = later.blessing w) ↔
        (saved.kind v).emptied = true ∨ later.blessing v = saved.blessing v) ∧
    let before := (script.run.final world.openScope).heap
    let after := ((Action.inScope script.run).final world).heap
    (∀ w, after.blessing w = before.blessing w) ↔
      ∀ w first, (script.moments world.openScope).find? (·.savesBody w) = some first →
        before.blessing w = first.heap.blessing w := by
  constructor
  · -- One snapshot is a frame by itself.
    have hevolve : ∀ moment ∈ [Moment.mk saved (.value v)], moment.heap.Evolves later := by
      intro moment hmoment
      obtain rfl := List.mem_singleton.1 hmoment
      exact evolves
    refine (restoreAll_keeps_blessing_iff hevolve).trans ?_
    constructor
    · intro hsame
      cases hkind : (saved.kind v).emptied with
      | true => exact .inl rfl
      | false => exact .inr (hsame v ⟨saved, .value v⟩ (by simp [Moment.savesBody, hkind]))
    · intro hclass w first hfirst
      obtain rfl := List.mem_singleton.1 (List.mem_of_find?_eq_some hfirst)
      have hsaves := List.find?_some hfirst
      rcases hclass with hemptied | hsame
      · rw [Moment.savesBody_of_emptied hemptied w] at hsaves
        exact absurd hsaves Bool.false_ne_true
      · obtain rfl := Target.value.inj (of_decide_eq_true hsaves).1
        exact hsame
  · have hleaves := script.leaves (show world.openScope.scopes = [] :: world.scopes from rfl)
    simp only [Action.final_inScope, hleaves.closeScope]
    exact restoreAll_keeps_blessing_iff hleaves.moments_evolve

/-- A hash that is localized and then blessed keeps the class, also at the end of a scope. -/
theorem Snapshot.keeps_blessing_iff_hash :
    let saved : Heap := ⟨#[{ content := .hash .empty }]⟩
    let later := (saved.localize ⟨0⟩).2.setBlessing ⟨0⟩ (some ⟨3⟩)
    let script : Script Unit := .localize ⟨0⟩ (.act (.bless ⟨0⟩ ⟨3⟩) fun _ => .done ())
    let world : World := { (default : World) with heap := saved }
    saved.Evolves later ∧ later.blessing ⟨0⟩ = some ⟨3⟩ ∧
      (∀ w, ((saved.localize ⟨0⟩).1.restore later).blessing w = later.blessing w) ∧
      (script.run.final world.openScope).heap.blessing ⟨0⟩ = some ⟨3⟩ ∧
      ∀ w, ((Action.inScope script.run).final world).heap.blessing w =
        (script.run.final world.openScope).heap.blessing w := by
  intro saved later script world
  have hemptied : (saved.kind ⟨0⟩).emptied = true := by decide
  have hevolves : saved.Evolves later := (saved.evolves_localize ⟨0⟩).trans (.setBody rfl)
  obtain ⟨hsnapshot, hscope⟩ := Snapshot.keeps_blessing_iff ⟨0⟩ hevolves script world
  refine ⟨hevolves, by decide, hsnapshot.2 (.inl hemptied), by decide, hscope.2 ?_⟩
  intro w first hfirst
  have hmoments : script.moments world.openScope = [⟨saved, .value ⟨0⟩⟩] := rfl
  rw [hmoments, List.find?_cons, Moment.savesBody_of_emptied hemptied w] at hfirst
  exact absurd hfirst (Option.some_ne_none first).symm

/-- A subroutine without a class. -/
def declaredOnly : Heap := ⟨#[{ content := .code "main::f" none }]⟩

/-- **A blessing of a localized subroutine is undone** when the subroutine is restored. -/
theorem Snapshot.restore_undoes_blessing :
    ¬ ∀ (saved later : Heap) (v w : Value), saved.Evolves later →
      ((saved.localize v).1.restore later).blessing w = later.blessing w := by
  intro hkeeps
  have hevolves : declaredOnly.Evolves (declaredOnly.setBlessing ⟨0⟩ (some ⟨0⟩)) := .setBody rfl
  have hclass := hkeeps declaredOnly (declaredOnly.setBlessing ⟨0⟩ (some ⟨0⟩)) ⟨0⟩ ⟨0⟩ hevolves
  exact absurd hclass (by decide)

/-- The same in a scope: the class is there to the end of the script, and gone after it. -/
example :
    let script : Script Unit := .localize ⟨0⟩ (.act (.bless ⟨0⟩ ⟨0⟩) fun _ => .done ())
    let world : World := { (default : World) with heap := declaredOnly }
    (script.run.final world.openScope).heap.blessing ⟨0⟩ = some ⟨0⟩ ∧
      ((Action.inScope script.run).final world).heap.blessing ⟨0⟩ = none := by
  decide

end DynamicValues
