import DynamicValues.Proofs.World.Final
import DynamicValues.Proofs.World.Refusal

/-!
# Vivifying and dereferencing

Vivifying is dereferencing in order to write. It makes a container in two places only, behind an
undefined scalar and in an empty slot of a glob; everywhere else it is dereferencing, with the same
answers and the same errors. `Heap.Vivified` lists the cases with all that each of them changes.

A container that was made is found from then on, by dereferencing (`Vivified.refers`) and by
vivifying again, which changes nothing (`Action.vivify_again`). So nothing is ever made twice.
-/

set_option autoImplicit false

namespace DynamicValues

namespace Heap

variable {heap : Heap} {v : Value}

/-! ## What a value refers to -/

/-- The body of the wanted kind that a value refers to. A file handle may be reached through a
glob. -/
inductive Refers (heap : Heap) (v : Value) (wanted : Kind) : Value → Prop where
  | direct {target : Value} (h : heap.referent? v = some target)
      (hkind : heap.kind target = wanted) : Refers heap v wanted target
  | throughGlob {glob handle : Value} {slots : GlobSlots} (h : heap.referent? v = some glob)
      (hwanted : wanted = .handle) (hslots : heap.slots? glob = some slots)
      (hhandle : slots.handle = some handle) : Refers heap v wanted handle

theorem expectKind_eq_ok_iff {wanted : Kind} {found target : Value} :
    heap.expectKind wanted found = .ok target ↔ heap.kind found = wanted ∧ found = target := by
  unfold expectKind
  split
  · next h => simp [h]
  · next h => simp [h]

/-- Where a reference leads, if that is what was wanted. -/
theorem found_of_referent? {target found : Value} {wanted : Kind}
    (h : heap.referent? v = some target) :
    heap.dereference v wanted = .ok found ↔
      (heap.kind target = wanted ∧ target = found) ∨
      (wanted = .handle ∧ ∃ slots, heap.slots? target = some slots ∧
        slots.handle = some found) := by
  have htarget : ∀ kind, heap.target v kind = .ok target := fun kind => target_eq_ok_iff.2 h
  unfold dereference derefHandle
  simp only [htarget]
  by_cases hwanted : wanted = .handle
  · subst hwanted
    simp only [bind, Except.bind, if_pos]
    cases hslots : heap.slots? target with
    | none => simp [expectKind_eq_ok_iff]
    | some slots =>
      have hglob := kind_of_slots? hslots
      cases hhandle : slots.handle <;> simp [hhandle, hglob]
  · rw [if_neg hwanted]
    show heap.expectKind wanted target = .ok found ↔ _
    simp [expectKind_eq_ok_iff, hwanted]

/-- **Dereferencing answers what the value refers to.** -/
theorem dereference_eq_ok_iff {found : Value} {wanted : Kind} :
    heap.dereference v wanted = .ok found ↔ heap.Refers v wanted found := by
  cases htarget : heap.referent? v with
  | none =>
    rw [dereference_of_referent?_eq_none htarget, target_eq_ok_iff]
    refine iff_of_false (by simp [htarget]) ?_
    rintro (⟨h, -⟩ | ⟨h, -⟩) <;> exact absurd (htarget.symm.trans h) (by simp)
  | some target =>
    rw [found_of_referent? htarget]
    constructor
    · rintro (⟨hkind, rfl⟩ | ⟨hwanted, slots, hslots, hhandle⟩)
      · exact .direct htarget hkind
      · exact .throughGlob htarget hwanted hslots hhandle
    · intro h
      cases h with
      | direct h hkind =>
        obtain rfl := Option.some.inj (htarget.symm.trans h)
        exact .inl ⟨hkind, rfl⟩
      | throughGlob h hwanted hslots hhandle =>
        obtain rfl := Option.some.inj (htarget.symm.trans h)
        exact .inr ⟨hwanted, _, hslots, hhandle⟩

/-! ## What vivifying does -/

/-- The later heap has one body more, an empty container without a class. Of the bodies that were
there none but `v` is another, and `v` has kept its class. -/
structure Grown (heap : Heap) (v : Value) (kind : ContainerKind) (container : Value) (after : Heap) :
    Prop where
  fresh : container.id = heap.size
  size : after.size = heap.size + 1
  empty : after.body container = { content := kind.emptyContent }
  others : ∀ w : Value, w.id < heap.size → w ≠ v → after.body w = heap.body w
  blessing : after.blessing v = heap.blessing v

/-- What vivifying answers and leaves behind. -/
inductive Vivified (heap : Heap) (v : Value) (kind : ContainerKind) :
    Except ValueError Value → Heap → Prop where
  /-- An undefined scalar comes to refer to a container, whichever alias is looked at. -/
  | undefined {position : Option Nat} {container : Value} {after : Heap}
      (hcontent : heap.content v = .scalar .undef position)
      (grown : heap.Grown v kind container after)
      (aliases : ∀ w : Value, w.id = v.id → after.content w = .scalar (.ref container) none) :
      Vivified heap v kind (.ok container) after
  /-- Any other value that is not a glob is dereferenced. -/
  | dereferenced (defined : heap.datum? v ≠ some .undef) (noGlob : heap.kind v ≠ .glob) :
      Vivified heap v kind (heap.dereference v kind.kind) heap
  | slot {package name : String} {slots : GlobSlots} {container : Value}
      (hcontent : heap.content v = .glob package name slots)
      (filled : kind.slot slots = some container) : Vivified heap v kind (.ok container) heap
  /-- An empty slot is filled, and the other slots stay as they are. -/
  | emptySlot {package name : String} {slots slots' : GlobSlots} {container : Value} {after : Heap}
      (hcontent : heap.content v = .glob package name slots) (empty : kind.slot slots = none)
      (grown : heap.Grown v kind container after)
      (hcontent' : after.content v = .glob package name slots')
      (filled : kind.slot slots' = some container)
      (others : ∀ other : ContainerKind, other ≠ kind → other.slot slots' = other.slot slots)
      (code : slots'.code = slots.code) (handle : slots'.handle = slots.handle) :
      Vivified heap v kind (.ok container) after

theorem lt_size_allocContent (hv : v.id < heap.size) (content : Content) :
    v.id < (heap.allocContent content).2.size := by
  rw [allocContent, size_alloc]
  exact Nat.lt_succ_of_lt hv

/-- A fresh container is added and one content is replaced. -/
theorem grown_setContent (hv : v.id < heap.size) (kind : ContainerKind) (content : Content) :
    let made := heap.allocContent kind.emptyContent
    heap.Grown v kind made.1 (made.2.setContent v content) where
  fresh := rfl
  size := by rw [setContent, size_setBody, allocContent, size_alloc]
  empty := by
    have hne : v ≠ (heap.allocContent kind.emptyContent).1 := by
      rintro rfl
      exact Nat.lt_irrefl _ hv
    rw [setContent, body_setBody_ne hne, allocContent, body_alloc_new]
  others w hw hne := by rw [setContent, body_setBody_ne hne.symm, allocContent, body_alloc_old hw]
  blessing := by
    rw [setContent, Heap.blessing, body_setBody_self (lt_size_allocContent hv _), allocContent,
      body_alloc_old hv, Heap.blessing]

/-- Behind an undefined scalar a container is made. -/
theorem vivified_vivifyUndef (hv : v.id < heap.size) {position : Option Nat}
    (hcontent : heap.content v = .scalar .undef position) (kind : ContainerKind) :
    ∃ container after, heap.vivifyUndef v kind = some (container, after) ∧
      heap.Vivified v kind (.ok container) after := by
  have hcontent' : (heap.allocContent kind.emptyContent).2.content v = .scalar .undef position :=
    (content_allocContent _ hv).trans hcontent
  refine ⟨_, _, by rw [vivifyUndef, datum?, hcontent], ?_⟩
  rw [assign, hcontent']
  refine .undefined hcontent (grown_setContent hv kind _) fun w hw => ?_
  obtain rfl : w = v := by
    cases w
    cases v
    simpa using hw
  exact content_setContent_self (lt_size_allocContent hv _)

theorem vivifyUndef_eq_none (defined : heap.datum? v ≠ some .undef) {kind : ContainerKind} :
    heap.vivifyUndef v kind = none := by
  unfold vivifyUndef
  split
  · next h => exact absurd h defined
  · rfl

/-- An empty slot is filled. -/
theorem vivified_globVivify (hv : v.id < heap.size) {package name : String} {slots : GlobSlots}
    (hcontent : heap.content v = .glob package name slots) (kind : ContainerKind) :
    ∃ container after, heap.globVivify v kind = (some container, after) ∧
      heap.Vivified v kind (.ok container) after := by
  unfold globVivify slots?
  rw [hcontent]
  cases hslot : kind.slot slots with
  | some container => exact ⟨container, heap, by simp [hslot], .slot hcontent hslot⟩
  | none =>
    have hcontent' : (heap.allocContent kind.emptyContent).2.content v =
        .glob package name slots := (content_allocContent _ hv).trans hcontent
    simp only [hslot, setSlots, hcontent']
    refine ⟨_, _, rfl, ?_⟩
    refine .emptySlot hcontent hslot (grown_setContent hv kind _)
      (content_setContent_self (lt_size_allocContent hv _)) ?_ (fun other hother => ?_) ?_ ?_
    · cases kind <;> rfl
    · cases kind <;> cases other <;> first | rfl | exact absurd rfl hother
    · cases kind <;> rfl
    · cases kind <;> rfl

/-! ## Once it is there -/

namespace Vivified

variable {kind : ContainerKind} {answer : Except ValueError Value} {container : Value}
  {after : Heap}

/-- What vivifying answered, the value refers to afterwards. -/
theorem refers (h : heap.Vivified v kind answer after) (hanswer : answer = .ok container)
    (noGlob : heap.kind v ≠ .glob) : after.Refers v kind.kind container := by
  cases h with
  | undefined _ grown aliases =>
    obtain rfl := Except.ok.inj hanswer
    refine .direct ?_ ?_
    · rw [referent?, datum?, aliases v rfl]
      rfl
    · rw [Heap.kind, content, grown.empty]
      cases kind <;> rfl
  | dereferenced _ _ => exact dereference_eq_ok_iff.1 hanswer
  | slot hcontent _ | emptySlot hcontent _ => exact absurd (by rw [Heap.kind, hcontent]; rfl) noGlob

end Vivified

end Heap

namespace Action

variable {v : Value} {kind : ContainerKind} {world : World}

/-- Where nothing is to be made, vivifying is dereferencing. -/
theorem vivify_of_defined (defined : world.heap.datum? v ≠ some .undef)
    (noGlob : world.heap.kind v ≠ .glob) :
    vivify v kind world = ask (·.heap.dereference v kind.kind) world := by
  have hslots := Heap.slots?_eq_none_iff.2 noGlob
  unfold vivify
  rw [Heap.vivifyUndef_eq_none defined, Heap.globVivify, hslots]
  simp only [Heap.derefTyped_eq_dereference]

theorem vivify_of_slot {package name : String} {slots : GlobSlots} {container : Value}
    (hcontent : world.heap.content v = .glob package name slots)
    (filled : kind.slot slots = some container) : vivify v kind world = .ok container world := by
  unfold vivify Heap.vivifyUndef Heap.globVivify Heap.datum? Heap.slots?
  simp only [hcontent, filled]

/-- What vivifying does in each case. -/
theorem exists_vivified (hv : v.id < world.heap.size) (kind : ContainerKind) :
    ∃ answer after, (vivify v kind).outcome world = answer ∧
      (vivify v kind).final world = { world with heap := after } ∧
      world.heap.Vivified v kind answer after := by
  by_cases undefined : world.heap.datum? v = some .undef
  · obtain ⟨datum, position, hcontent⟩ :=
      Content.eq_scalar_of_kind (Heap.kind_of_datum? undefined)
    obtain rfl : datum = .undef := by simpa [Heap.datum?, hcontent] using undefined
    obtain ⟨container, after, hmade, hvivified⟩ := Heap.vivified_vivifyUndef hv hcontent kind
    refine ⟨_, after, ?_, ?_, hvivified⟩
    · simp only [outcome, vivify, hmade]
    · simp only [final, vivify, hmade]
  · have hundef : world.heap.vivifyUndef v kind = none := Heap.vivifyUndef_eq_none undefined
    by_cases glob : world.heap.kind v = .glob
    · obtain ⟨package, name, slots, hcontent⟩ := Content.eq_glob_of_kind glob
      obtain ⟨container, after, hmade, hvivified⟩ := Heap.vivified_globVivify hv hcontent kind
      refine ⟨_, after, ?_, ?_, hvivified⟩
      · simp only [outcome, vivify, hundef, hmade]
      · simp only [final, vivify, hundef, hmade]
    · refine ⟨_, world.heap, ?_, ?_, .dereferenced undefined glob⟩
      · rw [outcome, vivify_of_defined undefined glob, ← outcome, outcome_ask]
      · rw [final, vivify_of_defined undefined glob, ← final, final_ask]

theorem vivify_of_refers {container : Value} (defined : world.heap.datum? v ≠ some .undef)
    (noGlob : world.heap.kind v ≠ .glob) (refers : world.heap.Refers v kind.kind container) :
    vivify v kind world = .ok container world := by
  rw [vivify_of_defined defined noGlob]
  simp only [ask, Heap.dereference_eq_ok_iff.2 refers]

/-- **A container that vivifying answered is answered again, and nothing is made.** -/
theorem vivify_again {heap : Heap} {answer : Except ValueError Value} {container : Value}
    {after : Heap} (h : heap.Vivified v kind answer after) (hanswer : answer = .ok container)
    (hworld : world.heap = after) : vivify v kind world = .ok container world := by
  have hrefers := h.refers hanswer
  subst hworld
  cases h with
  | undefined hcontent _ aliases =>
    have hafter := aliases v rfl
    refine vivify_of_refers ?_ ?_ (hrefers ?_)
    · simp [Heap.datum?, hafter]
    · simp [Heap.kind, hafter, Content.kind]
    · simp [Heap.kind, hcontent, Content.kind]
  | dereferenced defined noGlob => exact vivify_of_refers defined noGlob (hrefers noGlob)
  | slot hcontent filled =>
    obtain rfl := Except.ok.inj hanswer
    exact vivify_of_slot hcontent filled
  | emptySlot _ _ _ hcontent filled =>
    obtain rfl := Except.ok.inj hanswer
    exact vivify_of_slot hcontent filled

/-- **Vivifying is idempotent and agrees with dereferencing.** Vivifying does what it does by the
form of the value and changes nothing of the world but the heap. After a success it answers the same
body again and leaves the world as it is, and unless the value is a glob, dereferencing answers that
body too. The operations that dereference to one kind do what the one for any kind does: they answer
the body that the value refers to or the error that says why there is none, and change nothing. -/
theorem vivify_agrees_dereference (world : World) {v : Value} (hv : v.id < world.heap.size)
    (kind : ContainerKind) :
    (∃ after, (vivify v kind).final world = { world with heap := after } ∧
      world.heap.Vivified v kind ((vivify v kind).outcome world) after) ∧
    (∀ container after, vivify v kind world = .ok container after →
      vivify v kind after = .ok container after ∧
      (world.heap.kind v ≠ .glob → after.heap.dereference v kind.kind = .ok container ∧
        after.heap.derefTyped v kind.kind = .ok container)) ∧
    ∀ wanted : Kind,
      ask (·.heap.derefTyped v wanted) world = ask (·.heap.dereference v wanted) world ∧
      (ask (·.heap.dereference v wanted)).final world = world ∧
      (∀ found, world.heap.dereference v wanted = .ok found ↔ world.heap.Refers v wanted found) ∧
      ∀ e, world.heap.dereference v wanted = .error e ↔ world.heap.Astray v wanted e := by
  obtain ⟨answer, after, hanswer, hafter, hvivified⟩ := exists_vivified hv kind
  refine ⟨⟨after, hafter, hanswer ▸ hvivified⟩, ?_, ?_⟩
  · intro container world' hok
    have hcontainer : answer = .ok container := by rw [← hanswer, outcome, hok]
    have hheap : world'.heap = after := by
      have hfinal : (vivify v kind).final world = world' := by rw [final, hok]
      rw [← hfinal, hafter]
    refine ⟨vivify_again hvivified hcontainer hheap, fun noGlob => ?_⟩
    have hderef : world'.heap.dereference v kind.kind = .ok container :=
      Heap.dereference_eq_ok_iff.2 (hheap ▸ hvivified.refers hcontainer noGlob)
    exact ⟨hderef, (Heap.derefTyped_eq_dereference ..).trans hderef⟩
  · intro wanted
    refine ⟨?_, final_ask _ _, fun found => Heap.dereference_eq_ok_iff,
      fun e => Heap.dereference_eq_error_iff⟩
    simp only [ask, Heap.derefTyped_eq_dereference]

/-- An array with one undefined cell, which has a class and a match position. -/
def undefinedCell : World where
  settings := {}
  heap := ⟨#[⟨.array #[⟨1⟩], none⟩, ⟨.scalar .undef (some 3), some ⟨0⟩⟩]⟩
  classes := .empty 100

/-- The cell comes to refer to a hash, keeps its class and loses its position; the second time the
hash is there. -/
theorem vivify_agrees_dereference_undefinedCell :
    (1 < undefinedCell.heap.size) ∧ ∃ after,
      vivify ⟨1⟩ .hash undefinedCell = .ok ⟨2⟩ after ∧
      after.heap.content ⟨1⟩ = .scalar (.ref ⟨2⟩) none ∧
      after.heap.blessing ⟨1⟩ = some ⟨0⟩ ∧
      vivify ⟨1⟩ .hash after = .ok ⟨2⟩ after ∧
      after.heap.dereference ⟨1⟩ .hash = .ok ⟨2⟩ := by
  have hv : 1 < undefinedCell.heap.size := by decide
  have hmade : vivify ⟨1⟩ .hash undefinedCell = .ok ⟨2⟩ { undefinedCell with
      heap := ⟨#[⟨.array #[⟨1⟩], none⟩, ⟨.scalar (.ref ⟨2⟩) none, some ⟨0⟩⟩, ⟨.hash .empty, none⟩]⟩ } :=
    rfl
  obtain ⟨hagain, hderef⟩ := (vivify_agrees_dereference undefinedCell hv .hash).2.1 _ _ hmade
  exact ⟨hv, _, hmade, rfl, rfl, hagain, (hderef (by decide)).1⟩

end Action

end DynamicValues
