import DynamicValues.Proofs.Scope.Place

/-!
# Leaving a dynamic scope

When a scope closes, its snapshots are restored, newest first. So a place ends as the **oldest**
snapshot that covers it says, whatever the later ones say (`restoreAll_agrees`).

What a script adds to the open scopes is said by `Leaves`: one snapshot for each of its moments on
top of its own frame, and nothing below. A nested scope adds nothing, for its frame is gone when it
ends, and all that its closing does to the heap is one more evolution. The induction over the script
carries this through every answer and every failure, and `inScope_restores` puts the two together.
-/

set_option autoImplicit false

namespace DynamicValues

/-! ## Restoring a frame -/

/-- The snapshots of a row of moments as they stand in a frame, newest first. -/
def frameOf (moments : List Moment) : List Snapshot := (moments.map Moment.snapshot).reverse

theorem restoreAll_frameOf_cons (heap : Heap) (moment : Moment) (moments : List Moment) :
    Snapshot.restoreAll heap (frameOf (moment :: moments)) =
      moment.snapshot.restore (Snapshot.restoreAll heap (frameOf moments)) := by
  simp [frameOf, Snapshot.restoreAll]

theorem evolves_restoreAll {moments : List Moment} {heap : Heap}
    (evolves : ∀ moment ∈ moments, moment.heap.Evolves heap) :
    heap.Evolves (Snapshot.restoreAll heap (frameOf moments)) := by
  induction moments with
  | nil => exact .refl heap
  | cons moment moments ih =>
    have hrest := ih fun other hother => evolves other (List.mem_cons_of_mem _ hother)
    rw [restoreAll_frameOf_cons]
    exact hrest.trans (Moment.evolves_restore ((evolves moment List.mem_cons_self).trans hrest))

/-- **The oldest snapshot that covers a place has the last word.** -/
theorem restoreAll_agrees {moments : List Moment} {heap : Heap}
    (evolves : ∀ moment ∈ moments, moment.heap.Evolves heap) {place : Place} {first : Moment}
    (hfirst : moments.find? (·.target.covers place) = some first) (inside : place.In first.heap) :
    place.Agrees first.heap (Snapshot.restoreAll heap (frameOf moments)) := by
  induction moments with
  | nil => exact absurd hfirst (by simp)
  | cons moment moments ih =>
    have hothers : ∀ other ∈ moments, other.heap.Evolves heap :=
      fun other hother => evolves other (List.mem_cons_of_mem _ hother)
    have hrest := evolves_restoreAll hothers
    rw [restoreAll_frameOf_cons]
    cases hcovers : moment.target.covers place with
    | true =>
      -- The oldest snapshot is restored last, so nothing comes after it.
      simp only [List.find?_cons, hcovers] at hfirst
      obtain rfl := Option.some.inj hfirst
      exact Moment.restore_agrees inside ((evolves _ List.mem_cons_self).trans hrest) hcovers
    | false =>
      -- The place is settled by a later one, and the oldest leaves it so.
      simp only [List.find?_cons, hcovers] at hfirst
      have hfound := List.mem_of_find?_eq_some hfirst
      have hnow : place.In (Snapshot.restoreAll heap (frameOf moments)) :=
        inside.evolves ((hothers first hfound).trans hrest)
      exact (ih hothers hfirst).trans (Moment.restore_agrees_of_not_covers hnow hcovers)

/-! ## What a script leaves behind -/

/-- The world after a script that found the scopes `frame :: frames` and localized at `moments`. -/
structure Leaves (before : World) (moments : List Moment) (frame : List Snapshot)
    (frames : List (List Snapshot)) (after : World) : Prop where
  scopes : after.scopes = (frameOf moments ++ frame) :: frames
  evolves : before.heap.Evolves after.heap
  moments_evolve : ∀ moment ∈ moments, moment.heap.Evolves after.heap

namespace Leaves

variable {before between after : World} {moments : List Moment} {frame : List Snapshot}
  {frames : List (List Snapshot)}

theorem here (h : before.scopes = frame :: frames) : Leaves before [] frame frames before :=
  ⟨h, .refl _, by simp⟩

/-- A step that localizes nothing. -/
theorem quiet (evolves : before.heap.Evolves between.heap)
    (h : Leaves between moments frame frames after) : Leaves before moments frame frames after :=
  ⟨h.scopes, evolves.trans h.evolves, h.moments_evolve⟩

/-- A step that localizes. -/
theorem localized {target : Target} (evolves : before.heap.Evolves between.heap)
    (h : Leaves between moments ((Moment.mk before.heap target).snapshot :: frame) frames after) :
    Leaves before (⟨before.heap, target⟩ :: moments) frame frames after where
  scopes := by
    rw [h.scopes]
    simp [frameOf]
  evolves := evolves.trans h.evolves
  moments_evolve := by
    intro moment hmoment
    rcases List.mem_cons.1 hmoment with rfl | hmoment
    · exact evolves.trans h.evolves
    · exact h.moments_evolve moment hmoment

/-- Closing the scope takes its frame away and restores it. -/
theorem closeScope (h : Leaves before moments [] frames after) :
    after.closeScope =
      { after with heap := Snapshot.restoreAll after.heap (frameOf moments), scopes := frames } := by
  unfold World.closeScope
  rw [h.scopes, List.append_nil]

theorem evolves_closeScope (h : Leaves before moments [] frames after) :
    before.heap.Evolves after.closeScope.heap := by
  rw [h.closeScope]
  exact h.evolves.trans (evolves_restoreAll h.moments_evolve)

end Leaves

namespace World

variable {world : World} {frame : List Snapshot} {frames : List (List Snapshot)}

theorem scopes_save (h : world.scopes = frame :: frames) (snapshot : Snapshot) :
    (world.save snapshot).scopes = (snapshot :: frame) :: frames := by
  unfold save
  rw [h]

@[simp] theorem heap_save (world : World) (snapshot : Snapshot) :
    (world.save snapshot).heap = world.heap := by
  unfold save
  split <;> rfl

end World

/-- What localizing an element does, if the value is a hash. -/
theorem Heap.localizeElement_eq_ok {heap heap' : Heap} {hash cell : Value} {key : String}
    {snapshot : Snapshot} (h : heap.localizeElement hash key = .ok ((snapshot, cell), heap')) :
    snapshot = (Moment.mk heap (.element hash key)).snapshot ∧ heap.Evolves heap' := by
  unfold localizeElement at h
  split at h
  · exact absurd h (by simp)
  · next entries hentries =>
    obtain ⟨⟨rfl, -⟩, rfl⟩ := by simpa using h
    refine ⟨by simp [Moment.snapshot, hashGet?, hentries], ?_⟩
    exact (heap.evolves_newScalar .undef).trans (rewrites_setEntries _ _ _).evolves

theorem Action.final_localize (v : Value) (world : World) :
    (localize v).final world = { world with heap := (world.heap.localize v).2 }.save
      (Moment.mk world.heap (.value v)).snapshot := rfl

/-- An element is localized with an answer, or nothing happens. -/
theorem Action.localizeElement_cases (hash : Value) (key : String) (world : World) :
    (∃ cell heap, (localizeElement hash key).outcome world = .ok cell ∧
      world.heap.Evolves heap ∧ (localizeElement hash key).final world = { world with heap }.save
        (Moment.mk world.heap (.element hash key)).snapshot) ∨
    ∃ e, (localizeElement hash key).outcome world = .error e ∧
      (localizeElement hash key).final world = world := by
  unfold outcome final localizeElement
  cases hlocal : world.heap.localizeElement hash key with
  | error e => exact .inr ⟨e, rfl, rfl⟩
  | ok made =>
    obtain ⟨⟨snapshot, cell⟩, heap⟩ := made
    obtain ⟨rfl, hevolves⟩ := Heap.localizeElement_eq_ok hlocal
    exact .inl ⟨cell, heap, rfl, hevolves, rfl⟩

theorem Action.final_inScope {α : Type} (body : Action α) (world : World) :
    (inScope body).final world = (body.final world.openScope).closeScope := by
  unfold final inScope
  cases body world.openScope <;> rfl

/-- **What a script leaves behind.** -/
theorem Script.leaves {α : Type} (script : Script α) {world : World} {frame : List Snapshot}
    {frames : List (List Snapshot)} (h : world.scopes = frame :: frames) :
    Leaves world (script.moments world) frame frames (script.run.final world) := by
  induction script generalizing world frame frames with
  | done answer => exact .here h
  | fail e => exact .here h
  | act effect next ih =>
    exact .quiet (effect.evolves world) (ih _ ((effect.scopes world).trans h))
  | localize v next ih =>
    have hfinal := Action.final_localize v world
    refine .localized ?_ (ih ?_)
    · rw [hfinal, World.heap_save]
      exact world.heap.evolves_localize v
    · rw [hfinal]
      refine World.scopes_save ?_ _
      exact h
  | localizeElement hash key next ih =>
    rw [moments]
    rcases Action.localizeElement_cases hash key world with
      ⟨cell, heap, houtcome, hevolves, hfinal⟩ | ⟨e, houtcome, hfinal⟩
    · simp only [houtcome]
      rw [run, Action.final_attempt, houtcome]
      refine .localized ?_ (ih _ ?_)
      · rw [hfinal, World.heap_save]
        exact hevolves
      · rw [hfinal]
        refine World.scopes_save ?_ _
        exact h
    · simp only [houtcome]
      rw [run, Action.final_attempt, houtcome, hfinal]
      exact ih _ h
  | scope body next ihBody ihNext =>
    have hbody := ihBody (show world.openScope.scopes = [] :: frame :: frames by rw [← h]; rfl)
    have hfinal := Action.final_inScope body.run world
    -- The frame of the nested scope is gone, and its restoring is one more evolution of the heap.
    refine .quiet ?_ (ihNext _ ?_)
    · rw [hfinal]
      exact hbody.evolves_closeScope
    · rw [hfinal, hbody.closeScope]

/-- **Leaving a dynamic scope restores what was localized in it.** However the script ends, the open
scopes are those from before, and every place that the script localized holds what it held just
before the first localization that covers it. -/
theorem Action.inScope_restores {α : Type} (script : Script α) (world : World) :
    let after := (inScope script.run).final world
    after.scopes = world.scopes ∧ after.localDepth = world.localDepth ∧
    ∀ (place : Place) (first : Moment),
      (script.moments world.openScope).find? (·.target.covers place) = some first →
      place.In first.heap → place.Agrees first.heap after.heap := by
  have hleaves := script.leaves (show world.openScope.scopes = [] :: world.scopes from rfl)
  intro after
  have hafter : after = _ := (final_inScope script.run world).trans hleaves.closeScope
  have hscopes : after.scopes = world.scopes := by rw [hafter]
  refine ⟨hscopes, ?_, ?_⟩
  · rw [World.localDepth, hscopes, World.localDepth]
  · intro place first hfirst inside
    rw [hafter]
    exact restoreAll_agrees hleaves.moments_evolve hfirst inside

/-- A scalar, and a hash that holds it under the key `a`. -/
def oneEntry : World :=
  let heap : Heap :=
    ⟨#[{ content := .scalar (.int 7) none }, { content := .hash (Table.empty.insert "a" ⟨0⟩) }]⟩
  { (default : World) with heap }

/-- Localizes an element, the whole hash in a nested scope that fails, the whole hash again, and
fails with the hash refilled. -/
def overlapping : Script Unit :=
  .localizeElement ⟨1⟩ "a" fun _ =>
  .scope (.localize ⟨1⟩ (.act (.hashInsert ⟨1⟩ "a" (.int 8)) fun _ => .fail .cannotBless))
    fun (_ : Except ValueError Unit) =>
  .localize ⟨1⟩ <|
  .act (.hashInsert ⟨1⟩ "a" (.int 9)) fun _ =>
  .fail .cannotBless

/-- The element is back under its key. -/
theorem Action.inScope_restores_overlapping :
    let after := (inScope overlapping.run).final oneEntry
    after.localDepth = 0 ∧ after.heap.hashGet? ⟨1⟩ "a" = some ⟨0⟩ := by
  obtain ⟨-, hdepth, hplaces⟩ := inScope_restores overlapping oneEntry
  have hinside : (Place.entry ⟨1⟩ "a").In oneEntry.heap := ⟨by decide, by decide⟩
  have hthen : oneEntry.heap.hashGet? ⟨1⟩ "a" = some ⟨0⟩ := by decide +kernel
  refine ⟨hdepth, ?_⟩
  rw [← hthen]
  exact hplaces (.entry ⟨1⟩ "a") ⟨oneEntry.heap, .element ⟨1⟩ "a"⟩ rfl hinside

end DynamicValues
