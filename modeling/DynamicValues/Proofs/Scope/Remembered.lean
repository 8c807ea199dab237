import DynamicValues.Proofs.Heap.Written
import DynamicValues.Proofs.Scope.Session
import DynamicValues.World.Match
import Mathlib.Data.List.Induction

/-!
# Match positions and what they belong to

A match position is a place in the text that a scalar holds, so it means nothing once another datum is
written. `Operation.Writes` lists what writes a datum, and all of it takes the match position away, but for
restoring: a snapshot of a scalar holds its match position along with the datum, and both come back
together. No other operation changes either (`Operation.writesOnly_apply`).

A run is looked at as a history. `Belongs` says that a match position was stored after the last write,
or that it came back with its datum by a snapshot from a moment when it belonged there. **Whatever is
done from an empty heap on, every match position belongs to what is there**
(`Operation.position_belongs`): for a snapshot that is still to be restored was taken at an earlier
moment of the same run.
-/

set_option autoImplicit false

namespace DynamicValues

open Session

namespace Operation

/-! ## Operations that write to a scalar -/

/-- The snapshots that an operation restores, first one first. -/
def restores (session : Session) : Operation → List Snapshot
  | restore n => session.aside[n]?.toList
  | closeScope => session.world.scopes.headD []
  | _ => []

/-- The operation writes the datum of `c`. Vivifying does so only where nothing is defined, and
restoring where a snapshot is of `c`. -/
inductive Writes (session : Session) (c : Value) : Operation → Prop where
  | set (datum : Datum) : Writes session c (.set c datum)
  | undefine : Writes session c (.undefine c)
  | assign (items : List Value) : Writes session c (.assign c items)
  | vivify (kind : ContainerKind) (undefined : session.heap.datum? c = some .undef) :
    Writes session c (.vivify c kind)
  | localize : Writes session c (.localize c)
  | localizeInScope : Writes session c (.localizeInScope c)
  | restore {operation : Operation} (covered : Snapshot.Cover (operation.restores session) c) :
    Writes session c operation

/-- The operation writes the datum of `c`, or sets its match position only. -/
inductive Touches (session : Session) (c : Value) : Operation → Prop where
  | writes {operation : Operation} (h : operation.Writes session c) : Touches session c operation
  | setPosition (position : Option Nat) : Touches session c (.setPosition c position)

/-- None of these operations touches `c`, one after the other. -/
def Untouched (c : Value) : List Operation → Session → Prop
  | [], _ => True
  | operation :: operations, session =>
    ¬ operation.Touches session c ∧ Untouched c operations (operation.apply session)

/-- A snapshot of `c` is taken. -/
def Localizes (operation : Operation) (c : Value) : Prop :=
  operation = .localize c ∨ operation = .localizeInScope c

/-- After these operations, the match position `p` of `c` belongs to the datum of `c`. -/
inductive Belongs (start : Session) (c : Value) (p : Nat) : List Operation → Prop where
  /-- It was stored, and `c` is untouched since. -/
  | stored {before since : List Operation}
      (untouched : Untouched c since (run (before ++ [.setPosition c (some p)]) start)) :
      Belongs start c p (before ++ [.setPosition c (some p)] ++ since)
  /-- It belonged to a datum when a snapshot of `c` was taken, the two were put back together, and `c`
  is untouched since. -/
  | putBack {earlier between since : List Operation} {taking restoring : Operation} {datum : Datum}
      (belonged : Belongs start c p earlier)
      (held : (run earlier start).heap.content c = .scalar datum (some p))
      (taken : taking.Localizes c)
      (restored : .scalar c datum (some p) ∈
        restoring.restores (run (earlier ++ [taking] ++ between) start))
      (back : (run (earlier ++ [taking] ++ between ++ [restoring]) start).heap.content c =
        .scalar datum (some p))
      (untouched : Untouched c since (run (earlier ++ [taking] ++ between ++ [restoring]) start)) :
      Belongs start c p (earlier ++ [taking] ++ between ++ [restoring] ++ since)

/-! ## Runs -/

theorem run_append (operations others : List Operation) (session : Session) :
    run (operations ++ others) session = run others (run operations session) :=
  List.foldl_append

theorem run_concat (operations : List Operation) (operation : Operation) (session : Session) :
    run (operations ++ [operation]) session = operation.apply (run operations session) :=
  run_append operations [operation] session

theorem Untouched.concat {c : Value} {operations : List Operation} {operation : Operation}
    {session : Session} (h : Untouched c operations session)
    (hlast : ¬ operation.Touches (run operations session) c) :
    Untouched c (operations ++ [operation]) session := by
  induction operations generalizing session with
  | nil => exact ⟨hlast, trivial⟩
  | cons first operations ih => exact ⟨h.1, ih h.2 hlast⟩

/-- A match position goes on to belong to the datum as long as nothing touches the two. -/
theorem Belongs.concat {start : Session} {c : Value} {p : Nat} {operations : List Operation}
    {operation : Operation} (h : Belongs start c p operations)
    (hlast : ¬ operation.Touches (run operations start) c) :
    Belongs start c p (operations ++ [operation]) := by
  cases h with
  | stored untouched =>
    rw [run_append] at hlast
    rw [List.append_assoc _ _ [operation]]
    exact .stored (untouched.concat hlast)
  | putBack belonged held taken restored back untouched =>
    rw [run_append] at hlast
    rw [List.append_assoc _ _ [operation]]
    exact .putBack belonged held taken restored back (untouched.concat hlast)

end Operation

/-! ## What operations leave alone -/

namespace Action

variable {world : World} {v : Value} {written : Value → Prop}

theorem writesOnly_set (hv : written v) (datum : Datum) :
    world.heap.WritesOnly written ((set v datum).final world).heap := by
  unfold final set
  cases world.heap.datum? v with
  | none => exact .refl _
  | some _ => exact world.heap.writesOnly_assign hv datum

theorem writesOnly_assign (hv : written v) (items : List Value) :
    world.heap.WritesOnly written ((assign v items).final world).heap := by
  unfold final assign
  cases world.heap.kind v with
  | scalar => exact world.heap.writesOnly_assign hv _
  | array => exact world.heap.writesOnly_assignArray v _
  | hash =>
    simp only [World.heap_warnAll]
    exact world.heap.writesOnly_assignHash v _
  | _ => exact .refl _

theorem writesOnly_vivify (hv : world.heap.datum? v = some .undef → written v)
    (kind : ContainerKind) :
    world.heap.WritesOnly written ((vivify v kind).final world).heap := by
  unfold final vivify ask
  cases hundef : world.heap.vivifyUndef v kind with
  | some made =>
    refine world.heap.writesOnly_vivifyUndef (hv ?_) hundef
    unfold Heap.vivifyUndef at hundef
    split at hundef
    · assumption
    · exact absurd hundef (by simp)
  | none =>
    have hglob : world.heap.WritesOnly written (world.heap.globVivify v kind).2 :=
      world.heap.writesOnly_globVivify v kind
    rcases hmade : world.heap.globVivify v kind with ⟨container, heap⟩
    rw [hmade] at hglob
    cases container with
    | some container => exact hglob
    | none =>
      dsimp only
      cases world.heap.derefTyped v kind.kind <;> exact .refl _

theorem writesOnly_bless (v : Value) (id : StashId) :
    world.heap.WritesOnly written ((bless v id).final world).heap := by
  unfold final bless
  cases world.heap.invocant? v with
  | none => exact .refl _
  | some target => exact world.heap.writesOnly_setBlessing target _

theorem writesOnly_localizeElement (hash : Value) (key : String) :
    world.heap.WritesOnly written ((localizeElement hash key).final world).heap := by
  unfold final localizeElement
  cases hlocal : world.heap.localizeElement hash key with
  | error e => exact .refl _
  | ok made =>
    show world.heap.WritesOnly written (World.save _ _).heap
    rw [World.heap_save]
    exact Heap.writesOnly_localizeElement hlocal

end Action

theorem ClassChange.writesOnly_apply (change : ClassChange) (world : World)
    {written : Value → Prop} : world.heap.WritesOnly written (change.apply world).heap := by
  rcases change.heap_apply world with hsame | ⟨name, native, hmade⟩
  · rw [hsame]
    exact .refl _
  · rw [hmade]
    exact .allocContent world.heap (by simp)

namespace Operation

theorem heap_apply_restore (session : Session) (n : Nat) :
    ((restore n).apply session).heap =
      Snapshot.restoreAll session.heap ((restore n).restores session) := by
  show (session.restore n).heap = Snapshot.restoreAll session.heap session.aside[n]?.toList
  unfold Session.restore
  cases session.aside[n]? <;> rfl

theorem heap_apply_closeScope (session : Session) :
    (closeScope.apply session).heap =
      Snapshot.restoreAll session.heap (closeScope.restores session) := by
  show session.world.closeScope.heap = _
  unfold World.closeScope restores
  cases session.world.scopes <;> rfl

/-- Where there is something to restore, no more is done. -/
theorem heap_apply_of_cover {session : Session} {operation : Operation} {c : Value}
    (h : Snapshot.Cover (operation.restores session) c) : (operation.apply session).heap =
      Snapshot.restoreAll session.heap (operation.restores session) := by
  obtain ⟨snapshot, hmem, -⟩ := h
  cases operation with
  | restore n => exact heap_apply_restore session n
  | closeScope => exact heap_apply_closeScope session
  | _ => exact absurd hmem List.not_mem_nil

/-- **An operation writes to no scalar but those that it touches.** -/
theorem writesOnly_apply (session : Session) (operation : Operation) :
    session.heap.WritesOnly (operation.Touches session ·) (operation.apply session).heap := by
  cases operation with
  | newScalar datum => exact session.heap.writesOnly_newScalar datum
  | newArray data => exact session.heap.writesOnly_newArray data
  | newHash pairs => exact session.heap.writesOnly_newHash pairs
  | newCode name native => exact .allocContent session.heap (by simp)
  | newGlob package name => exact .allocContent session.heap (by simp)
  | newHandle name => exact .allocContent session.heap (by simp)
  | newRegex pattern => exact .allocContent session.heap (by simp)
  | clone order v hops => exact session.heap.writesOnly_clone order v hops
  | set v datum => exact Action.writesOnly_set (.writes (.set datum)) datum
  | setPosition v position => exact session.heap.writesOnly_setPosition (.setPosition position) _
  | undefine v => exact session.heap.writesOnly_undefine (.writes .undefine)
  | assign v items => exact Action.writesOnly_assign (.writes (.assign items)) items
  | arrayElement array index => exact session.heap.writesOnly_arrayElement array index
  | push array datum => exact session.heap.writesOnly_push array datum
  | pop array => exact session.heap.writesOnly_pop array
  | clear array => exact session.heap.writesOnly_setItems array _
  | hashElement hash key => exact session.heap.writesOnly_hashElement hash key
  | hashInsert hash key datum => exact session.heap.writesOnly_hashInsert hash key datum
  | hashRemove hash key => exact session.heap.writesOnly_hashRemove hash key
  | vivify v kind => exact Action.writesOnly_vivify (fun h => .writes (.vivify kind h)) kind
  | globVivify glob kind => exact session.heap.writesOnly_globVivify glob kind
  | globSet glob content => exact session.heap.writesOnly_globSet glob content
  | bless v id => exact Action.writesOnly_bless v id
  | setBlessing v blessing => exact session.heap.writesOnly_setBlessing v blessing
  | changeClasses change => exact change.writesOnly_apply session.world
  | localize v => exact session.heap.writesOnly_localize (.writes .localize)
  | localizeElement hash key =>
    show session.heap.WritesOnly _ (session.localizeElement hash key).heap
    unfold Session.localizeElement
    split
    · next hlocal => exact Heap.writesOnly_localizeElement hlocal
    · exact .refl _
  | restore n =>
    rw [heap_apply_restore]
    exact Snapshot.writesOnly_restoreAll _ fun c hc => .writes (.restore hc)
  | drop n => exact .refl _
  | openScope => exact .refl _
  | closeScope =>
    rw [heap_apply_closeScope]
    exact Snapshot.writesOnly_restoreAll _ fun c hc => .writes (.restore hc)
  | localizeInScope v =>
    show session.heap.WritesOnly _ ((Action.localize v).final session.world).heap
    rw [Action.final_localize, World.heap_save]
    exact session.heap.writesOnly_localize (.writes .localizeInScope)
  | localizeElementInScope hash key => exact Action.writesOnly_localizeElement hash key

/-- What is untouched by a run keeps its datum and its match position. -/
theorem Untouched.same {c : Value} {operations : List Operation} {session : Session}
    (h : Untouched c operations session) (hlt : c.id < session.heap.size) :
    (run operations session).heap.datum? c = session.heap.datum? c ∧
      (run operations session).heap.position? c = session.heap.position? c := by
  induction operations generalizing session with
  | nil => exact ⟨rfl, rfl⟩
  | cons operation operations ih =>
    have hstep := writesOnly_apply session operation
    obtain ⟨hdatum, hposition⟩ := ih h.2 (Nat.lt_of_lt_of_le hlt hstep.size)
    exact ⟨hdatum.trans (hstep.datum c h.1 hlt), hposition.trans (hstep.position c h.1)⟩

end Operation

/-! ## What a write leaves behind -/

namespace Action

variable {world : World} {v : Value}

theorem position?_set_self (datum : Datum) :
    ((set v datum).final world).heap.position? v = none := by
  unfold final set
  cases hdatum : world.heap.datum? v with
  | none => exact Heap.position?_of_kind_ne (Heap.datum?_eq_none_iff.1 hdatum)
  | some _ => exact world.heap.position?_assign_self v datum

theorem position?_assign_self (items : List Value) :
    ((assign v items).final world).heap.position? v = none := by
  by_cases hkind : world.heap.kind v = .scalar
  · unfold final assign
    rw [hkind]
    exact world.heap.position?_assign_self v _
  · exact ((Effect.assign v items).evolves world).position?_of_kind_ne hkind

theorem position?_vivify_self (undefined : world.heap.datum? v = some .undef)
    (kind : ContainerKind) : ((vivify v kind).final world).heap.position? v = none := by
  unfold final vivify Heap.vivifyUndef
  rw [undefined]
  exact Heap.position?_assign_self _ v _

end Action

namespace Operation

/-- **A write takes the match position away**, unless a snapshot puts one back with its datum. -/
theorem exists_snapshot_of_writes {session : Session} {operation : Operation} {c : Value} {p : Nat}
    (h : operation.Writes session c)
    (hposition : (operation.apply session).heap.position? c = some p) :
    ∃ snapshot ∈ operation.restores session, ∃ datum,
      snapshot.putsBack? = some (c, .scalar datum (some p)) ∧
      (operation.apply session).heap.content c = .scalar datum (some p) := by
  have hgone (hnone : (operation.apply session).heap.position? c = none) : False := by
    rw [hnone] at hposition
    exact absurd hposition (by simp)
  cases h with
  | set datum => exact (hgone (Action.position?_set_self datum)).elim
  | undefine => exact (hgone (session.heap.position?_undefine_self c)).elim
  | assign items => exact (hgone (Action.position?_assign_self items)).elim
  | vivify kind undefined => exact (hgone (Action.position?_vivify_self undefined kind)).elim
  | localize => exact (hgone (session.heap.position?_localize_self c)).elim
  | localizeInScope =>
    refine (hgone ?_).elim
    show ((Action.localize c).final session.world).heap.position? c = none
    rw [Action.final_localize, World.heap_save]
    exact session.heap.position?_localize_self c
  | restore covered =>
    rw [heap_apply_of_cover covered] at hposition ⊢
    exact Snapshot.content_of_restoreAll covered hposition

end Operation

/-! ## Where snapshots come from -/

namespace Session

variable {session : Session} {heap : Heap} {snapshot taken : Snapshot}

theorem pending_act (session : Session) {α : Type} (effect : Effect α) :
    (session.act effect).pending = session.pending := by
  show session.aside ++ (effect.run.final session.world).scopes.flatten = session.pending
  rw [effect.scopes, pending]

/-- One snapshot more is kept by the innermost scope. -/
theorem mem_pending_save
    (h : snapshot ∈ ({ session with world := { session.world with heap }.save taken } :
      Session).pending) :
    snapshot = taken ∨ snapshot ∈ session.pending := by
  rw [pending, World.flatten_scopes_save] at h
  rcases List.mem_append.1 h with haside | hscope
  · exact .inr (List.mem_append_left _ haside)
  · exact (List.mem_cons.1 hscope).imp_right (List.mem_append_right _)

/-- One snapshot held aside is used up. -/
theorem mem_pending_eraseIdx {n : Nat}
    (h : snapshot ∈ ({ world := { session.world with heap }, aside := session.aside.eraseIdx n } :
      Session).pending) :
    snapshot ∈ session.pending := by
  rcases List.mem_append.1 h with haside | hscope
  · exact List.mem_append_left _ (List.mem_of_mem_eraseIdx haside)
  · exact List.mem_append_right _ hscope

end Session

namespace Operation

variable {session start : Session} {operation : Operation} {operations : List Operation}
  {snapshot : Snapshot}

theorem mem_pending_of_mem_restores (h : snapshot ∈ operation.restores session) :
    snapshot ∈ session.pending := by
  cases operation with
  | restore n => exact List.mem_append_left _ (List.mem_of_getElem? (Option.mem_toList.1 h))
  | closeScope =>
    refine List.mem_append_right _ ?_
    unfold restores at h
    cases hscopes : session.world.scopes with
    | nil => exact absurd (hscopes ▸ h) List.not_mem_nil
    | cons frame frames =>
      rw [hscopes] at h
      exact List.mem_append_left _ h
  | _ => exact absurd h List.not_mem_nil

/-- A snapshot that is to be restored after an operation was to be restored before, or it is the one
that the operation takes; that of an element puts no content back. -/
theorem mem_pending_apply (h : snapshot ∈ (operation.apply session).pending) :
    snapshot ∈ session.pending ∨
      (∃ v, operation.Localizes v ∧ snapshot = (session.heap.localize v).1) ∨
      snapshot.putsBack? = none := by
  cases operation with
  | localize v =>
    rcases List.mem_cons.1 h with rfl | hold
    · exact .inr (.inl ⟨v, .inl rfl, rfl⟩)
    · exact .inl hold
  | localizeElement hash key =>
    change snapshot ∈ (session.localizeElement hash key).pending at h
    unfold Session.localizeElement at h
    split at h
    · next hlocal =>
      rcases List.mem_cons.1 h with rfl | hold
      · rw [(Heap.localizeElement_eq_ok hlocal).1]
        exact .inr (.inr rfl)
      · exact .inl hold
    · exact .inl h
  | restore n =>
    change snapshot ∈ (session.restore n).pending at h
    unfold Session.restore at h
    split at h
    · exact .inl (mem_pending_eraseIdx h)
    · exact .inl h
  | drop n => exact .inl (mem_pending_eraseIdx h)
  | openScope => exact .inl h
  | closeScope =>
    change snapshot ∈ session.aside ++ session.world.closeScope.scopes.flatten at h
    refine .inl ((List.mem_append.1 h).elim (List.mem_append_left _) fun hscopes => ?_)
    refine List.mem_append_right _ ?_
    unfold World.closeScope at hscopes
    split at hscopes
    · exact hscopes
    · next hthen =>
      rw [hthen]
      exact List.mem_append_right _ hscopes
  | localizeInScope v =>
    rcases mem_pending_save h with rfl | hold
    · exact .inr (.inl ⟨v, .inr rfl, rfl⟩)
    · exact .inl hold
  | localizeElementInScope hash key =>
    change snapshot ∈ ({ session with world :=
      (Action.localizeElement hash key).final session.world } : Session).pending at h
    rcases Action.localizeElement_cases hash key session.world with
      ⟨cell, heap, -, -, hfinal⟩ | ⟨e, -, hfinal⟩
    · rw [hfinal] at h
      rcases mem_pending_save h with rfl | hold
      · exact .inr (.inr rfl)
      · exact .inl hold
    · rw [hfinal] at h
      exact .inl h
  | setBlessing v blessing => exact .inl h
  | changeClasses change =>
    change snapshot ∈ session.aside ++ (change.apply session.world).scopes.flatten at h
    rw [change.scopes_apply] at h
    exact .inl h
  | _ =>
    left
    rw [← session.pending_act]
    exact h

/-- A snapshot that is to be restored after a run, and puts a content back, was taken in the run. -/
theorem exists_localize_of_mem_pending (hnone : start.pending = []) {c : Value} {content : Content}
    (h : snapshot ∈ (run operations start).pending)
    (hputs : snapshot.putsBack? = some (c, content)) :
    ∃ earlier taking between, operations = earlier ++ [taking] ++ between ∧
      taking.Localizes c ∧ snapshot = ((run earlier start).heap.localize c).1 := by
  induction operations using List.reverseRecOn with
  | nil =>
    change snapshot ∈ start.pending at h
    rw [hnone] at h
    exact absurd h List.not_mem_nil
  | append_singleton operations operation ih =>
    rw [run_concat] at h
    rcases mem_pending_apply h with hold | ⟨v, hlocalizes, rfl⟩ | hcells
    · obtain ⟨earlier, taking, between, rfl, htaken⟩ := ih hold
      exact ⟨earlier, taking, between ++ [operation], List.append_assoc _ _ _, htaken⟩
    · obtain ⟨rfl, -⟩ := Snapshot.putsBack?_localize hputs
      exact ⟨operations, operation, [], (List.append_nil _).symm, hlocalizes, rfl⟩
    · exact absurd (hcells.symm.trans hputs) (by simp)

/-! ## The history of a match position -/

/-- Where there are no match positions and no snapshots in the beginning, all match positions belong
to what is there at every moment of a run. -/
theorem belongs_of_position? (hnone : start.pending = [])
    (hclear : ∀ c, start.heap.position? c = none) (operations : List Operation) :
    ∀ moment, moment <+: operations → ∀ c p,
      (run moment start).heap.position? c = some p → Belongs start c p moment := by
  induction operations using List.reverseRecOn with
  | nil =>
    intro moment hmoment c p hposition
    rw [List.prefix_nil.1 hmoment] at hposition
    exact absurd ((hclear c).symm.trans hposition) (by simp)
  | append_singleton operations operation ih =>
    intro moment hmoment c p hposition
    rcases List.prefix_concat_iff.1 hmoment with rfl | hmoment
    case inr => exact ih moment hmoment c p hposition
    rw [run_concat] at hposition
    by_cases htouches : operation.Touches (run operations start) c
    · cases htouches with
      | setPosition position =>
        obtain rfl := Heap.eq_of_position?_setPosition hposition
        have hstored : Belongs start c p (operations ++ [.setPosition c (some p)] ++ []) :=
          .stored trivial
        rwa [List.append_nil] at hstored
      | writes hwrites =>
        -- Only a snapshot puts a match position back, and it was taken earlier in the run.
        obtain ⟨snapshot, hmem, datum, hputs, hback⟩ := exists_snapshot_of_writes hwrites hposition
        obtain ⟨earlier, taking, between, rfl, htaken, rfl⟩ :=
          exists_localize_of_mem_pending hnone (mem_pending_of_mem_restores hmem) hputs
        obtain ⟨-, hheld⟩ := Snapshot.putsBack?_localize hputs
        have hbelonged : Belongs start c p earlier := by
          refine ih earlier ?_ c p ?_
          · rw [List.append_assoc]
            exact List.prefix_append _ _
          · rw [Heap.position?, ← hheld]
        rw [Heap.localize, ← hheld] at hmem
        have hput : Belongs start c p (earlier ++ [taking] ++ between ++ [operation] ++ []) := by
          refine .putBack hbelonged hheld.symm htaken hmem ?_ trivial
          rw [run_concat]
          exact hback
        rwa [List.append_nil] at hput
    · have hkept := (writesOnly_apply (run operations start) operation).position c htouches
      exact (ih operations List.prefix_rfl c p (hkept.symm.trans hposition)).concat htouches

/-- **A match position never outlives what it belongs to.** After any operations from an empty heap on,
the match position of a scalar was stored there after its datum was written last, or the two were put
back together from a moment when this held. What no operation touches keeps both. No copy has a match
position. What is stored is there, and committing a match state is storing its position. -/
theorem position_belongs (settings : Settings) (addresses : Addresses) (sink : WarningSink)
    (operations : List Operation) :
    let session := run operations (.start settings addresses sink)
    (∀ c p, session.heap.position? c = some p →
      Belongs (.start settings addresses sink) c p operations) ∧
    (∀ c later, c.id < session.heap.size → Untouched c later session →
      (run later session).heap.datum? c = session.heap.datum? c ∧
        (run later session).heap.position? c = session.heap.position? c) ∧
    (∀ order v hops c, session.heap.size ≤ c.id →
      ((clone order v hops).apply session).heap.position? c = none) ∧
    (∀ c position, c.id < session.heap.size → session.heap.kind c = .scalar →
      ((setPosition c position).apply session).heap.position? c = position) ∧
    ∀ v (state : MatchState),
      ((setPosition v state.position).apply session).heap = state.commit session.heap v := by
  intro session
  refine ⟨fun c p h => ?_, fun c later hlt huntouched => huntouched.same hlt,
    fun order v hops c hge => Heap.position?_clone_of_size_le hge,
    fun c position hlt hkind => Heap.position?_setPosition_self hlt hkind position,
    fun v state => rfl⟩
  have hclear (c : Value) : (Session.start settings addresses sink).heap.position? c = none :=
    Heap.position?_of_size_le (Nat.zero_le _)
  exact belongs_of_position? rfl hclear operations operations List.prefix_rfl c p h

/-- A text with a match position, localized and written to in a scope that closes. -/
def textLocalized : List Operation :=
  [.newScalar (.text "abc"), .setPosition ⟨0⟩ (some 2), .openScope, .localizeInScope ⟨0⟩,
    .set ⟨0⟩ (.text "x"), .closeScope]

/-- In the scope there is no match position. After it, there is the old one again, and the old text. -/
theorem position_belongs_textLocalized :
    let session := run textLocalized (.start {} default .silent)
    (run (textLocalized.take 5) (.start {} default .silent)).heap.position? ⟨0⟩ = none ∧
    session.heap.position? ⟨0⟩ = some 2 ∧ session.heap.datum? ⟨0⟩ = some (.text "abc") ∧
    Belongs (.start {} default .silent) ⟨0⟩ 2 textLocalized := by
  intro session
  obtain ⟨hbelongs, -⟩ := position_belongs {} default .silent textLocalized
  have hposition : session.heap.position? ⟨0⟩ = some 2 := by decide +kernel
  exact ⟨by decide +kernel, hposition, by decide +kernel, hbelongs _ _ hposition⟩

end Operation

end DynamicValues
