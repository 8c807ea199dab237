import DynamicValues.Proofs.Class.Changes
import DynamicValues.Proofs.Heap.Accounts
import DynamicValues.Proofs.Scope.Restore

/-!
# Sessions

A snapshot belongs to whoever took it, who may restore it at any time and in any order, or never; or
it is kept by a scope and restored when that closes. A `Session` is a world together with the snapshots
that are held outside of it, and `Operation` lists all that can be done in it. Operations may be given
any values whatever, and scopes may open and close in any way.

Every operation keeps a session **sound** (`Session.Sound.apply`): no cell is in two places, be they in
containers or in snapshots that are still to be restored, and all cells are scalars. The cells of the
pending snapshots are those at hand, in the sense of `Heap.Accounts`.
-/

set_option autoImplicit false

namespace DynamicValues

/-- The cells that a list of snapshots keeps. -/
def Snapshot.allCells (snapshots : List Snapshot) : Multiset Value :=
  snapshots.flatMap Snapshot.cells

/-- A world and the snapshots that are held outside of it. -/
structure Session where
  world : World
  /-- The snapshots that no scope restores, newest first. -/
  aside : List Snapshot := []

namespace Session

/-- Nothing was done yet. -/
def start (settings : Settings) (addresses : Addresses) (sink : WarningSink) : Session :=
  { world := .start settings addresses sink }

def heap (session : Session) : Heap := session.world.heap

/-- The snapshots that are still to be restored. -/
def pending (session : Session) : List Snapshot := session.aside ++ session.world.scopes.flatten

/-- The cells that are in no container, for a snapshot keeps them. -/
def held (session : Session) : Multiset Value := Snapshot.allCells session.pending

/-- Does something that leaves the snapshots alone. -/
def act {α : Type} (session : Session) (effect : Effect α) : Session :=
  { session with world := effect.run.final session.world }

/-- Takes a snapshot of a value and empties it. -/
def localize (session : Session) (v : Value) : Session :=
  let (snapshot, heap) := session.heap.localize v
  { world := { session.world with heap }, aside := snapshot :: session.aside }

/-- Sets the cell under a key of a hash aside for a fresh one. -/
def localizeElement (session : Session) (hash : Value) (key : String) : Session :=
  match session.heap.localizeElement hash key with
  | .ok ((snapshot, _), heap) =>
    { world := { session.world with heap }, aside := snapshot :: session.aside }
  | .error _ => session

/-- Restores one of the snapshots held aside, which is used up by that. -/
def restore (session : Session) (n : Nat) : Session :=
  match session.aside[n]? with
  | some snapshot =>
    { world := { session.world with heap := snapshot.restore session.heap }
      aside := session.aside.eraseIdx n }
  | none => session

/-- Gives one of the snapshots held aside up. -/
def drop (session : Session) (n : Nat) : Session :=
  { session with aside := session.aside.eraseIdx n }

end Session

/-! ## Operations -/

/-- What can be done in a session. -/
inductive Operation where
  | newScalar (datum : Datum)
  | newArray (data : List Datum)
  | newHash (pairs : List (String × Datum))
  | newCode (name : String) (native : Option Native)
  | newGlob (package name : String)
  | newHandle (name : String)
  | newRegex (pattern : CompiledPattern)
  | clone (order : HashOrder) (v : Value) (hops : Nat)
  | set (v : Value) (datum : Datum)
  | setPosition (v : Value) (position : Option Nat)
  | undefine (v : Value)
  | assign (v : Value) (items : List Value)
  | arrayElement (array : Value) (index : Nat)
  | push (array : Value) (datum : Datum)
  | pop (array : Value)
  | clear (array : Value)
  | hashElement (hash : Value) (key : String)
  | hashInsert (hash : Value) (key : String) (datum : Datum)
  | hashRemove (hash : Value) (key : String)
  | vivify (v : Value) (kind : ContainerKind)
  | globVivify (glob : Value) (kind : ContainerKind)
  | globSet (glob content : Value)
  | bless (v : Value) (id : StashId)
  | setBlessing (v : Value) (blessing : Option StashId)
  | changeClasses (change : ClassChange)
  | localize (v : Value)
  | localizeElement (hash : Value) (key : String)
  | restore (n : Nat)
  | drop (n : Nat)
  | openScope
  | closeScope
  /-- Localizes a value until the innermost scope closes. -/
  | localizeInScope (v : Value)
  | localizeElementInScope (hash : Value) (key : String)

namespace Operation

/-- The session after an operation, whether it succeeded or not. -/
def apply (session : Session) : Operation → Session
  | newScalar datum => session.act (.make (.scalar datum none))
  | newArray data => session.act (.newArray data)
  | newHash pairs => session.act (.newHash pairs)
  | newCode name native => session.act (.make (.code name native))
  | newGlob package name => session.act (.make (.glob package name {}))
  | newHandle name => session.act (.make (.handle name))
  | newRegex pattern => session.act (.make (.regex pattern))
  | clone order v hops => session.act (.clone order v hops)
  | set v datum => session.act (.set v datum)
  | setPosition v position => session.act (.setPosition v position)
  | undefine v => session.act (.undefine v)
  | assign v items => session.act (.assign v items)
  | arrayElement array index => session.act (.arrayElement array index)
  | push array datum => session.act (.push array datum)
  | pop array => session.act (.pop array)
  | clear array => session.act (.clear array)
  | hashElement hash key => session.act (.hashElement hash key)
  | hashInsert hash key datum => session.act (.hashInsert hash key datum)
  | hashRemove hash key => session.act (.hashRemove hash key)
  | vivify v kind => session.act (.vivify v kind)
  | globVivify glob kind => session.act (.globVivify glob kind)
  | globSet glob content => session.act (.globSet glob content)
  | bless v id => session.act (.bless v id)
  | setBlessing v blessing =>
    { session with world.heap := session.heap.setBlessing v blessing }
  | changeClasses change => { session with world := change.apply session.world }
  | localize v => session.localize v
  | localizeElement hash key => session.localizeElement hash key
  | restore n => session.restore n
  | drop n => session.drop n
  | openScope => { session with world := session.world.openScope }
  | closeScope => { session with world := session.world.closeScope }
  | localizeInScope v => { session with world := (Action.localize v).final session.world }
  | localizeElementInScope hash key =>
    { session with world := (Action.localizeElement hash key).final session.world }

/-- The session after a row of operations. -/
def run (operations : List Operation) (session : Session) : Session := operations.foldl apply session

end Operation

/-! ## The cells of snapshots -/

namespace Snapshot

@[simp] theorem allCells_cons (snapshot : Snapshot) (snapshots : List Snapshot) :
    allCells (snapshot :: snapshots) = snapshot.cells + allCells snapshots := by
  rw [allCells, List.flatMap_cons, ← Multiset.coe_add, allCells]

@[simp] theorem allCells_append (snapshots others : List Snapshot) :
    allCells (snapshots ++ others) = allCells snapshots + allCells others := by
  rw [allCells, List.flatMap_append, ← Multiset.coe_add, allCells, allCells]

/-- One snapshot is taken out of a list. -/
theorem allCells_eraseIdx {snapshots : List Snapshot} {n : Nat} {snapshot : Snapshot}
    (h : snapshots[n]? = some snapshot) :
    snapshot.cells + allCells (snapshots.eraseIdx n) = allCells snapshots := by
  obtain ⟨hn, rfl⟩ := List.getElem?_eq_some_iff.1 h
  rw [← allCells_cons]
  exact Multiset.coe_eq_coe.2 ((List.getElem_cons_eraseIdx_perm hn).flatMap_right _)

end Snapshot

theorem Heap.suits_of_localizeElement {heap heap' : Heap} {hash cell : Value} {key : String}
    {snapshot : Snapshot} (h : heap.localizeElement hash key = .ok ((snapshot, cell), heap')) :
    snapshot.Suits heap' := by
  rw [(Heap.localizeElement_eq_ok h).1]
  exact fun v body hwhole => Snapshot.noConfusion hwhole

theorem World.flatten_scopes_save (world : World) (snapshot : Snapshot) :
    (world.save snapshot).scopes.flatten = snapshot :: world.scopes.flatten := by
  unfold save
  split
  · next h => simp [h]
  · next h => simp [h]

/-! ## Sound sessions -/

namespace Session

variable {session session' : Session}

/-- No cell is in two places, all cells are scalars, and what is pending can be restored. -/
structure Sound (session : Session) : Prop where
  owned : session.heap.Owned session.held
  suits : ∀ snapshot ∈ session.pending, snapshot.Suits session.heap

theorem sound_start (settings : Settings) (addresses : Addresses) (sink : WarningSink) :
    (start settings addresses sink).Sound where
  owned := Heap.owned_empty
  suits := fun _ h => absurd h List.not_mem_nil

theorem held_eq (session : Session) :
    session.held = Snapshot.allCells session.aside + Snapshot.allCells session.world.scopes.flatten :=
  Snapshot.allCells_append _ _

/-- A session stays sound if the cells are accounted for and each snapshot is an old or a suitable
one. -/
theorem Sound.step (sound : session.Sound)
    (accounts : session.heap.Accounts session.held session'.heap session'.held)
    (suits : ∀ snapshot ∈ session'.pending,
      snapshot ∈ session.pending ∨ snapshot.Suits session'.heap) : session'.Sound where
  owned := accounts.owned sound.owned
  suits := by
    intro snapshot hpending
    rcases suits snapshot hpending with hold | hnew
    · exact (sound.suits snapshot hold).evolves accounts.evolves
    · exact hnew

/-- Nothing happens to the snapshots. -/
theorem Sound.world (sound : session.Sound) {world : World}
    (scopes : world.scopes.flatten = session.world.scopes.flatten)
    (accounts : session.heap.Accounts session.held world.heap session.held) :
    ({ session with world } : Session).Sound := by
  have hpending : ({ session with world } : Session).pending = session.pending := by
    rw [pending, pending, scopes]
  refine sound.step ?_ fun snapshot h => .inl (hpending ▸ h)
  have hheld : ({ session with world } : Session).held = session.held := by
    rw [held, hpending, held]
  rw [hheld]
  exact accounts

theorem Sound.act (sound : session.Sound) {α : Type} (effect : Effect α)
    (accounts : session.heap.Accounts session.held (effect.run.final session.world).heap
      session.held) : (session.act effect).Sound :=
  sound.world (congrArg List.flatten (effect.scopes session.world)) accounts

/-! ### Snapshots held aside -/

/-- The snapshots held aside are replaced, and the heap changes. -/
theorem Sound.setAside (sound : session.Sound) {heap : Heap} {aside : List Snapshot}
    (accounts : ∀ held, session.heap.Accounts (Snapshot.allCells session.aside + held) heap
      (Snapshot.allCells aside + held))
    (suits : ∀ snapshot ∈ aside, snapshot ∈ session.aside ∨ snapshot.Suits heap) :
    ({ world := { session.world with heap }, aside } : Session).Sound := by
  refine sound.step ?_ fun snapshot h => ?_
  · rw [held_eq, held_eq]
    exact accounts _
  · rcases List.mem_append.1 h with hmem | hmem
    · exact (suits snapshot hmem).imp_left (List.mem_append_left _)
    · exact .inl (List.mem_append_right _ hmem)

/-- One more snapshot is held aside. -/
theorem Sound.keep (sound : session.Sound) {heap : Heap} {snapshot : Snapshot}
    (accounts : ∀ held, session.heap.Accounts held heap (snapshot.cells + held))
    (suits : snapshot.Suits heap) :
    ({ world := { session.world with heap }, aside := snapshot :: session.aside } : Session).Sound := by
  refine sound.setAside (fun held => ?_) fun other h => ?_
  · rw [Snapshot.allCells_cons, add_assoc]
    exact accounts _
  · rcases List.mem_cons.1 h with rfl | hmem
    · exact .inr suits
    · exact .inl hmem

theorem Sound.localize (sound : session.Sound) (v : Value) : (session.localize v).Sound :=
  sound.keep (session.heap.accounts_localize v) (session.heap.suits_localize v)

theorem Sound.localizeElement (sound : session.Sound) (hash : Value) (key : String) :
    (session.localizeElement hash key).Sound := by
  unfold Session.localizeElement
  split
  · next snapshot cell heap hlocal =>
    exact sound.keep (Heap.accounts_localizeElement hlocal) (Heap.suits_of_localizeElement hlocal)
  · exact sound

theorem Sound.restore (sound : session.Sound) (n : Nat) : (session.restore n).Sound := by
  unfold Session.restore
  split
  · next snapshot hn =>
    refine sound.setAside (fun held => ?_) fun other hother => .inl (List.mem_of_mem_eraseIdx hother)
    rw [← Snapshot.allCells_eraseIdx hn, add_assoc]
    refine Heap.accounts_restore (sound.suits snapshot ?_) _
    exact List.mem_append_left _ (List.mem_of_getElem? hn)
  · exact sound

theorem Sound.drop (sound : session.Sound) (n : Nat) : (session.drop n).Sound := by
  refine sound.setAside (fun held => (Heap.Accounts.refl session.heap _).drop ?_)
    fun snapshot h => .inl (List.mem_of_mem_eraseIdx h)
  refine add_le_add_left ?_ held
  cases hn : session.aside[n]? with
  | some snapshot =>
    rw [← Snapshot.allCells_eraseIdx hn]
    exact Multiset.le_add_left _ _
  | none => rw [List.eraseIdx_of_length_le (List.getElem?_eq_none_iff.1 hn)]

/-! ### Snapshots kept by scopes -/

/-- One more snapshot is kept by the innermost scope. -/
theorem Sound.save (sound : session.Sound) {heap : Heap} {snapshot : Snapshot}
    (accounts : ∀ held, session.heap.Accounts held heap (snapshot.cells + held))
    (suits : snapshot.Suits heap) :
    ({ session with world := { session.world with heap }.save snapshot } : Session).Sound := by
  have hflatten := World.flatten_scopes_save { session.world with heap } snapshot
  refine sound.step ?_ fun other h => ?_
  · rw [held_eq, held_eq, hflatten, Snapshot.allCells_cons, add_left_comm]
    show session.heap.Accounts _ ({ session.world with heap }.save snapshot).heap _
    rw [World.heap_save]
    exact accounts _
  · rw [pending, hflatten] at h
    rcases List.mem_append.1 h with hmem | hmem
    · exact .inl (List.mem_append_left _ hmem)
    · rcases List.mem_cons.1 hmem with rfl | hmem
      · show _ ∨ other.Suits ({ session.world with heap }.save other).heap
        rw [World.heap_save]
        exact .inr suits
      · exact .inl (List.mem_append_right _ hmem)

theorem Sound.localizeInScope (sound : session.Sound) (v : Value) :
    ({ session with world := (Action.localize v).final session.world } : Session).Sound :=
  sound.save (session.heap.accounts_localize v) (session.heap.suits_localize v)

theorem Sound.localizeElementInScope (sound : session.Sound) (hash : Value) (key : String) :
    ({ session with world := (Action.localizeElement hash key).final session.world } :
      Session).Sound := by
  unfold Action.final Action.localizeElement
  cases hlocal : session.world.heap.localizeElement hash key with
  | error e => exact sound
  | ok made =>
    exact sound.save (Heap.accounts_localizeElement hlocal) (Heap.suits_of_localizeElement hlocal)

/-- The snapshots of the innermost scope are restored. -/
theorem Sound.closeScope (sound : session.Sound) :
    ({ session with world := session.world.closeScope } : Session).Sound := by
  unfold World.closeScope
  split
  · exact sound
  · next frame frames hscopes =>
    have hflatten : session.world.scopes.flatten = frame ++ frames.flatten := by
      rw [hscopes, List.flatten_cons]
    refine sound.step ?_ fun snapshot h => .inl ?_
    · rw [held_eq, held_eq, hflatten, Snapshot.allCells_append, add_left_comm]
      refine Heap.accounts_restoreAll (fun snapshot hmem => sound.suits snapshot ?_) _
      exact List.mem_append_right _ (hflatten ▸ List.mem_append_left _ hmem)
    · rcases List.mem_append.1 h with hmem | hmem
      · exact List.mem_append_left _ hmem
      · exact List.mem_append_right _ (hflatten ▸ List.mem_append_right _ hmem)

end Session

/-! ## Operations keep sessions sound -/

namespace Action

variable (world : World) (held : Multiset Value)

theorem accounts_set (v : Value) (datum : Datum) :
    world.heap.Accounts held ((set v datum).final world).heap held := by
  unfold final set
  cases world.heap.datum? v with
  | none => exact .refl _ held
  | some _ => exact world.heap.accounts_assign v held datum

theorem accounts_assign (v : Value) (items : List Value) :
    world.heap.Accounts held ((assign v items).final world).heap held := by
  unfold final assign
  cases world.heap.kind v with
  | scalar => exact world.heap.accounts_assign v held _
  | array => exact world.heap.accounts_assignArray v held _
  | hash =>
    simp only [World.heap_warnAll]
    exact world.heap.accounts_assignHash v held _
  | _ => exact .refl _ held

theorem accounts_vivify (v : Value) (kind : ContainerKind) :
    world.heap.Accounts held ((vivify v kind).final world).heap held := by
  unfold final vivify ask
  cases hundef : world.heap.vivifyUndef v kind with
  | some made => exact world.heap.accounts_vivifyUndef v held hundef
  | none =>
    have hglob := world.heap.accounts_globVivify v held kind
    rcases hmade : world.heap.globVivify v kind with ⟨container, heap⟩
    rw [hmade] at hglob
    cases container with
    | some container => exact hglob
    | none =>
      dsimp only
      cases world.heap.derefTyped v kind.kind <;> exact .refl _ held

theorem accounts_bless (v : Value) (id : StashId) :
    world.heap.Accounts held ((bless v id).final world).heap held := by
  unfold final bless
  cases world.heap.invocant? v with
  | none => exact .refl _ held
  | some target => exact world.heap.accounts_setBlessing target held _

end Action

namespace ClassChange

/-- Classes hold no cells. -/
theorem accounts_apply (change : ClassChange) (world : World) (held : Multiset Value) :
    world.heap.Accounts held (change.apply world).heap held := by
  rcases change.heap_apply world with hsame | ⟨name, native, hmade⟩
  · rw [hsame]
    exact .refl _ held
  · rw [hmade]
    exact Heap.accounts_allocContent rfl world.heap held

end ClassChange

namespace Operation

open Session

/-- **Every operation keeps a session sound.** -/
theorem sound_apply {session : Session} (sound : session.Sound) (operation : Operation) :
    (operation.apply session).Sound := by
  cases operation with
  | newScalar datum => exact sound.act _ (Heap.accounts_allocContent rfl _ _)
  | newArray data => exact sound.act _ (Heap.accounts_newArray _ _ data)
  | newHash pairs => exact sound.act _ (Heap.accounts_newHash _ _ pairs)
  | newCode name native => exact sound.act _ (Heap.accounts_allocContent rfl _ _)
  | newGlob package name => exact sound.act _ (Heap.accounts_allocContent rfl _ _)
  | newHandle name => exact sound.act _ (Heap.accounts_allocContent rfl _ _)
  | newRegex pattern => exact sound.act _ (Heap.accounts_allocContent rfl _ _)
  | clone order v hops => exact sound.act _ (sound.owned.accounts_clone order v hops)
  | set v datum => exact sound.act _ (Action.accounts_set _ _ v datum)
  | setPosition v position => exact sound.act _ (Heap.accounts_setPosition _ v _ position)
  | undefine v => exact sound.act _ (Heap.accounts_undefine _ v _)
  | assign v items => exact sound.act _ (Action.accounts_assign _ _ v items)
  | arrayElement array index => exact sound.act _ (Heap.accounts_arrayElement _ array _ index)
  | push array datum => exact sound.act _ (Heap.accounts_push _ array _ datum)
  | pop array => exact sound.act _ (Heap.accounts_pop _ array _)
  | clear array => exact sound.act _ (Heap.accounts_clear _ array _)
  | hashElement hash key => exact sound.act _ (Heap.accounts_hashElement _ hash _ key)
  | hashInsert hash key datum => exact sound.act _ (Heap.accounts_hashInsert _ hash _ key datum)
  | hashRemove hash key => exact sound.act _ (Heap.accounts_hashRemove _ hash _ key)
  | vivify v kind => exact sound.act _ (Action.accounts_vivify _ _ v kind)
  | globVivify glob kind => exact sound.act _ (Heap.accounts_globVivify _ glob _ kind)
  | globSet glob content => exact sound.act _ (Heap.accounts_globSet _ glob _ content)
  | bless v id => exact sound.act _ (Action.accounts_bless _ _ v id)
  | setBlessing v blessing => exact sound.world rfl (Heap.accounts_setBlessing _ v _ blessing)
  | changeClasses change =>
    exact sound.world (congrArg List.flatten (change.scopes_apply _)) (change.accounts_apply _ _)
  | localize v => exact sound.localize v
  | localizeElement hash key => exact sound.localizeElement hash key
  | restore n => exact sound.restore n
  | drop n => exact sound.drop n
  | openScope => exact sound.world rfl (.refl _ _)
  | closeScope => exact sound.closeScope
  | localizeInScope v => exact sound.localizeInScope v
  | localizeElementInScope hash key => exact sound.localizeElementInScope hash key

theorem sound_run (operations : List Operation) {session : Session} (sound : session.Sound) :
    (run operations session).Sound := by
  induction operations generalizing session with
  | nil => exact sound
  | cons operation operations ih => exact ih (sound_apply sound operation)

end Operation

end DynamicValues
