import DynamicValues.Proofs.Class.Changes
import DynamicValues.Proofs.Heap.Evolve
import DynamicValues.World.Call
import DynamicValues.World.Members

/-!
# Refused operations

An operation that may fail is refused for what it finds: a value of another kind, nothing behind a
reference, a class that is not in the table. `Request` lists these operations, and `Request.Refused`
says of each, from the world before it alone, whether it is refused and with which error.

`Request.run_eq_error_iff` is the statement that a caller relies on, in both directions: a request
fails **exactly if** it is refused, with that error, and the world it leaves behind is the world it
found, to the last body, snapshot, class and warning. A native subroutine may do things before it
fails, so a call counts here as long as there is no native body to run, whatever native bodies do.
-/

set_option autoImplicit false

namespace DynamicValues

namespace Heap

variable {heap : Heap} {v : Value} {wanted : Kind} {e : ValueError}

/-! ## Contents and kinds -/

theorem datum?_eq_none_iff : heap.datum? v = none ↔ heap.kind v ≠ .scalar := by
  unfold datum? kind
  cases heap.content v <;> simp [Content.kind]

theorem entries?_eq_none_iff : heap.entries? v = none ↔ heap.kind v ≠ .hash := by
  unfold entries? kind
  cases heap.content v <;> simp [Content.kind]

theorem slots?_eq_none_iff : heap.slots? v = none ↔ heap.kind v ≠ .glob := by
  unfold slots? kind
  cases heap.content v <;> simp [Content.kind]

theorem kind_of_datum? {datum : Datum} (h : heap.datum? v = some datum) :
    heap.kind v = .scalar := by
  by_contra hne
  rw [datum?_eq_none_iff.2 hne] at h
  cases h

theorem kind_of_slots? {slots : GlobSlots} (h : heap.slots? v = some slots) :
    heap.kind v = .glob := by
  by_contra hne
  rw [slots?_eq_none_iff.2 hne] at h
  cases h

theorem invocant?_eq_none_iff :
    heap.invocant? v = none ↔ heap.kind v = .scalar ∧ heap.referent? v = none := by
  unfold invocant? referent?
  cases hdatum : heap.datum? v with
  | none => simpa using datum?_eq_none_iff.1 hdatum
  | some datum => simp [kind_of_datum? hdatum]

/-! ## Dereferencing -/

/-- Nothing of the wanted kind is behind a value, and this is the error that says why. -/
inductive Astray (heap : Heap) (v : Value) (wanted : Kind) : ValueError → Prop where
  | undefined (h : heap.datum? v = some .undef) : Astray heap v wanted (.undefinedReference wanted)
  | noReference (h : heap.datum? v ≠ some .undef) (plain : heap.referent? v = none) :
      Astray heap v wanted (.notAReference wanted)
  | otherKind {target : Value} (h : heap.referent? v = some target)
      (other : heap.kind target ≠ wanted)
      (noGlob : wanted = .handle → heap.kind target ≠ .glob) :
      Astray heap v wanted (.kindMismatch wanted (heap.kind target))
  /-- A file handle may be reached through a glob, but this one holds none. -/
  | emptyGlob {target : Value} {slots : GlobSlots} (h : heap.referent? v = some target)
      (hwanted : wanted = .handle) (hslots : heap.slots? target = some slots)
      (empty : slots.handle = none) : Astray heap v wanted (.kindMismatch .handle .glob)

theorem target_eq_ok_iff {target : Value} :
    heap.target v wanted = .ok target ↔ heap.referent? v = some target := by
  unfold Heap.target referent?
  cases heap.datum? v with
  | none => simp
  | some datum => cases datum <;> simp [Datum.target?]

theorem target_eq_error_iff :
    heap.target v wanted = .error e ↔ heap.referent? v = none ∧
      e = if heap.datum? v = some .undef then .undefinedReference wanted
        else .notAReference wanted := by
  unfold Heap.target referent?
  cases heap.datum? v with
  | none => simp [eq_comm]
  | some datum => cases datum <;> simp [Datum.target?, eq_comm]

theorem expectKind_eq_error_iff {found : Value} :
    heap.expectKind wanted found = .error e ↔
      heap.kind found ≠ wanted ∧ e = .kindMismatch wanted (heap.kind found) := by
  unfold expectKind
  split
  · next h => simp [h]
  · next h => simp [h, eq_comm]

/-- The operations for one kind do what the one for any kind does. -/
theorem derefTyped_eq_dereference (heap : Heap) (v : Value) (kind : Kind) :
    heap.derefTyped v kind = heap.dereference v kind := by
  cases kind <;> rfl

/-- A value that refers to nothing fails as it does where its reference is looked up. -/
theorem dereference_of_referent?_eq_none (h : heap.referent? v = none) :
    heap.dereference v wanted = heap.target v wanted := by
  unfold dereference derefHandle
  split
  · next hwanted =>
    rw [hwanted, target_eq_error_iff.2 ⟨h, rfl⟩]
    rfl
  · rw [target_eq_error_iff.2 ⟨h, rfl⟩]
    rfl

/-- What comes of a reference that leads somewhere. -/
theorem dereference_of_referent? {target : Value} (h : heap.referent? v = some target) :
    heap.dereference v wanted = .error e ↔
      (heap.kind target ≠ wanted ∧ (wanted = .handle → heap.kind target ≠ .glob) ∧
        e = .kindMismatch wanted (heap.kind target)) ∨
      (wanted = .handle ∧ e = .kindMismatch .handle .glob ∧
        ∃ slots, heap.slots? target = some slots ∧ slots.handle = none) := by
  have htarget : ∀ kind, heap.target v kind = .ok target := fun kind => target_eq_ok_iff.2 h
  unfold dereference derefHandle
  simp only [htarget]
  by_cases hwanted : wanted = .handle
  · subst hwanted
    simp only [bind, Except.bind, if_pos]
    cases hslots : heap.slots? target with
    | none =>
      have hglob := slots?_eq_none_iff.1 hslots
      simp [expectKind_eq_error_iff, hglob]
    | some slots =>
      have hglob := kind_of_slots? hslots
      cases hhandle : slots.handle <;> simp [hhandle, hglob, eq_comm]
  · rw [if_neg hwanted]
    show heap.expectKind wanted target = .error e ↔ _
    simp [expectKind_eq_error_iff, hwanted]

/-- **Dereferencing fails exactly if it goes astray.** -/
theorem dereference_eq_error_iff : heap.dereference v wanted = .error e ↔ heap.Astray v wanted e := by
  cases htarget : heap.referent? v with
  | none =>
    rw [dereference_of_referent?_eq_none htarget, target_eq_error_iff]
    constructor
    · rintro ⟨-, rfl⟩
      split
      · next h => exact .undefined h
      · next h => exact .noReference h htarget
    · intro h
      cases h with
      | undefined h => exact ⟨htarget, by rw [if_pos h]⟩
      | noReference h _ => exact ⟨htarget, by rw [if_neg h]⟩
      | otherKind h | emptyGlob h => exact absurd (htarget.symm.trans h) (by simp)
  | some target =>
    rw [dereference_of_referent? htarget]
    constructor
    · rintro (⟨hkind, hglob, rfl⟩ | ⟨hwanted, rfl, slots, hslots, hnone⟩)
      · exact .otherKind htarget hkind hglob
      · exact .emptyGlob htarget hwanted hslots hnone
    · intro h
      cases h with
      | undefined h => simp [referent?, h, Datum.target?] at htarget
      | noReference _ h => exact absurd (htarget.symm.trans h) (by simp)
      | otherKind h hkind hglob =>
        obtain rfl := Option.some.inj (htarget.symm.trans h)
        exact .inl ⟨hkind, hglob, rfl⟩
      | emptyGlob h hwanted hslots hnone =>
        obtain rfl := Option.some.inj (htarget.symm.trans h)
        exact .inr ⟨hwanted, rfl, _, hslots, hnone⟩

/-! ## Asking for members and elements -/

theorem members_eq_error_iff :
    heap.members v = .error e ↔
      heap.kind v ∉ [.array, .hash] ∧ e = .kindMismatch .array (heap.kind v) := by
  unfold members kind
  cases heap.content v <;> simp [Content.kind, eq_comm]

theorem localizeElement_eq_error_iff (key : String) :
    heap.localizeElement v key = .error e ↔
      heap.kind v ≠ .hash ∧ e = .kindMismatch .hash (heap.kind v) := by
  rw [← entries?_eq_none_iff]
  unfold localizeElement
  cases heap.entries? v <;> simp [eq_comm]

end Heap

/-! ## Parents -/

namespace SymbolTable

variable {table : SymbolTable} {id : StashId} {parents : List StashId} {e : ValueError}

/-- The first class of a list that is not in the table. -/
def FirstUnknown (table : SymbolTable) (classes : List StashId) (unknown : StashId) : Prop :=
  ∃ before rest, classes = before ++ unknown :: rest ∧ (∀ c ∈ before, table.Known c) ∧
    ¬ table.Known unknown

theorem find?_eq_some_iff {classes : List StashId} {unknown : StashId} :
    (classes.find? fun c => (table.get? c).isNone) = some unknown ↔
      table.FirstUnknown classes unknown := by
  rw [List.find?_eq_some_iff_append, FirstUnknown]
  constructor
  · rintro ⟨hnone, before, rest, hsplit, hknown⟩
    exact ⟨before, rest, hsplit, by simpa [Known] using hknown, by simpa [Known] using hnone⟩
  · rintro ⟨before, rest, hsplit, hknown, hnone⟩
    exact ⟨by simpa [Known] using hnone, before, rest, hsplit, by simpa [Known] using hknown⟩

theorem find?_eq_none_iff {classes : List StashId} :
    (classes.find? fun c => (table.get? c).isNone) = none ↔ ∀ c ∈ classes, table.Known c := by
  rw [List.find?_eq_none]
  simp only [Known, Option.isSome_iff_ne_none, Option.isNone_iff_eq_none, ne_eq]

/-- Among classes of the table, parents are accepted unless one of them leads to the class. -/
theorem accepts_iff (known : ∀ c ∈ id :: parents, table.Known c) :
    table.Accepts id parents ↔ ∀ parent ∈ parents, id ∉ table.linearIsa parent := by
  constructor
  · rintro ⟨table', hok⟩
    exact (setIsa_eq_ok_iff.1 hok).2.1
  · intro hfree
    obtain ⟨stash, hstash⟩ := Option.isSome_iff_exists.1 (known id List.mem_cons_self)
    exact ⟨_, setIsa_eq_ok_iff.2 ⟨known, hfree, stash, hstash, rfl⟩⟩

/-- **What a list of parents is refused for**: a class that is not in the table, or else, among classes
that are, one that leads to the class itself. -/
theorem setIsa_eq_error_iff :
    table.setIsa id parents = .error e ↔
      (∃ unknown, table.FirstUnknown (id :: parents) unknown ∧ e = .unknownStash unknown.number) ∨
      (∀ c ∈ id :: parents, table.Known c) ∧ (∃ parent ∈ parents, id ∈ table.linearIsa parent) ∧
        e = .recursiveInheritance (table.name id) := by
  cases hfind : (id :: parents).find? fun c => (table.get? c).isNone with
  | some unknown =>
    have hfirst := find?_eq_some_iff.1 hfind
    have herror : table.setIsa id parents = .error (.unknownStash unknown.number) := by
      rw [setIsa, hfind]
    rw [herror, Except.error.injEq]
    constructor
    · rintro rfl
      exact .inl ⟨unknown, hfirst, rfl⟩
    · rintro (⟨other, hother, rfl⟩ | ⟨hknown, -⟩)
      · rw [find?_eq_some_iff.2 hother] at hfind
        rw [Option.some.inj hfind]
      · rw [find?_eq_none_iff.2 hknown] at hfind
        cases hfind
  | none =>
    have hknown := find?_eq_none_iff.1 hfind
    have hnone : ∀ unknown, ¬ table.FirstUnknown (id :: parents) unknown := by
      intro unknown hfirst
      rw [find?_eq_some_iff.2 hfirst] at hfind
      cases hfind
    by_cases haccepts : table.Accepts id parents
    · have hfree := (accepts_iff hknown).1 haccepts
      obtain ⟨table', hok⟩ := haccepts
      rw [hok]
      refine iff_of_false (by simp) ?_
      rintro (⟨unknown, hfirst, -⟩ | ⟨-, ⟨parent, hparent, hmem⟩, -⟩)
      · exact hnone unknown hfirst
      · exact hfree parent hparent hmem
    · rw [(setIsa_eq_recursive_iff hknown).2 haccepts, Except.error.injEq]
      rw [accepts_iff hknown] at haccepts
      push Not at haccepts
      constructor
      · rintro rfl
        exact .inr ⟨hknown, haccepts, rfl⟩
      · rintro (⟨unknown, hfirst, -⟩ | ⟨-, -, rfl⟩)
        · exact absurd hfirst (hnone unknown)
        · rfl

end SymbolTable

/-! ## Requests -/

/-- A change of the heap that may fail. -/
def Action.tryHeap {α : Type} (change : Heap → Except ValueError (α × Heap)) : Action α :=
  fun world =>
    match change world.heap with
    | .ok (answer, heap) => .ok answer { world with heap }
    | .error e => .error e world

/-- An operation that may be refused. -/
inductive Request where
  | set (v : Value) (datum : Datum)
  | assign (v : Value) (items : List Value)
  | bless (v : Value) (id : StashId)
  | members (v : Value)
  | dereference (v : Value) (wanted : Kind)
  /-- Dereferences through the operation for one kind. -/
  | derefTyped (v : Value) (wanted : Kind)
  | vivify (v : Value) (kind : ContainerKind)
  /-- Localizes an element of a hash and hands the snapshot out. -/
  | localizeElement (hash : Value) (key : String)
  /-- Localizes an element of a hash until the innermost scope closes. -/
  | localizeElementInScope (hash : Value) (key : String)
  | setIsa (id : StashId) (parents : List StashId)
  | intern (name : String)
  | call (code : Value) (args : List Value)

namespace Request

/-- What a request answers if it succeeds. -/
abbrev Answer : Request → Type
  | set _ _ | bless _ _ | setIsa _ _ => Unit
  | assign _ _ => Nat
  | members _ => Enumerator
  | localizeElement _ _ => Snapshot × Value
  | intern _ => StashId
  | dereference _ _ | derefTyped _ _ | vivify _ _ | localizeElementInScope _ _ | call _ _ => Value

def run (natives : NativeCode) : (request : Request) → Action request.Answer
  | set v datum => Action.set v datum
  | assign v items => Action.assign v items
  | bless v id => Action.bless v id
  | members v => Action.ask (·.heap.members v)
  | dereference v wanted => Action.ask (·.heap.dereference v wanted)
  | derefTyped v wanted => Action.ask (·.heap.derefTyped v wanted)
  | vivify v kind => Action.vivify v kind
  | localizeElement hash key => Action.tryHeap (·.localizeElement hash key)
  | localizeElementInScope hash key => Action.localizeElement hash key
  | setIsa id parents => Action.setIsa id parents
  | intern name => Action.intern name
  | call code args => Action.callCode natives code args

/-- Whether a request is refused, and with which error, by the world it finds. -/
def Refused (world : World) : Request → ValueError → Prop
  | set v _, e => world.heap.kind v ≠ .scalar ∧ e = .kindMismatch .scalar (world.heap.kind v)
  | assign v _, e =>
    world.heap.kind v ∉ [.scalar, .array, .hash] ∧ e = .cannotAssignList (world.heap.kind v)
  | bless v _, e =>
    (world.heap.kind v = .scalar ∧ world.heap.referent? v = none) ∧ e = .cannotBless
  | members v, e =>
    world.heap.kind v ∉ [.array, .hash] ∧ e = .kindMismatch .array (world.heap.kind v)
  | dereference v wanted, e => world.heap.Astray v wanted e
  | derefTyped v wanted, e => world.heap.Astray v wanted e
  | vivify v kind, e =>
    (world.heap.datum? v ≠ some .undef ∧ world.heap.kind v ≠ .glob) ∧
      world.heap.Astray v kind.kind e
  | localizeElement hash _, e =>
    world.heap.kind hash ≠ .hash ∧ e = .kindMismatch .hash (world.heap.kind hash)
  | localizeElementInScope hash _, e =>
    world.heap.kind hash ≠ .hash ∧ e = .kindMismatch .hash (world.heap.kind hash)
  | setIsa id parents, e =>
    (∃ unknown, world.classes.FirstUnknown (id :: parents) unknown ∧
      e = .unknownStash unknown.number) ∨
    (∀ c ∈ id :: parents, world.classes.Known c) ∧
      (∃ parent ∈ parents, id ∈ world.classes.linearIsa parent) ∧
      e = .recursiveInheritance (world.classes.name id)
  | intern name, e =>
    world.classes.lookup name = none ∧ UInt32.size ≤ world.classes.size ∧ e = .stashIdsExhausted
  | call code _, e =>
    (∃ name, world.heap.content code = .code name none ∧ e = .undefinedSubroutine name) ∨
    world.heap.kind code ≠ .code ∧ e = .kindMismatch .code (world.heap.kind code)

/-- The request is a call that runs a native body. -/
def RunsNative (world : World) : Request → Prop
  | call code _ => ∃ name native, world.heap.content code = .code name (some native)
  | _ => False

end Request

/-! ## One operation at a time -/

namespace Action

variable {α : Type} {world after : World} {v : Value} {e : ValueError}

theorem ask_eq_error_iff {question : World → Except ValueError α} :
    ask question world = .error e after ↔ question world = .error e ∧ after = world := by
  unfold ask
  cases question world with
  | ok answer => simp
  | error e' => simp [eq_comm]

theorem tryHeap_eq_error_iff {change : Heap → Except ValueError (α × Heap)} :
    tryHeap change world = .error e after ↔ change world.heap = .error e ∧ after = world := by
  unfold tryHeap
  cases change world.heap with
  | ok made => simp
  | error e' => simp [eq_comm]

theorem set_eq_error_iff {datum : Datum} :
    set v datum world = .error e after ↔
      (world.heap.kind v ≠ .scalar ∧ e = .kindMismatch .scalar (world.heap.kind v)) ∧
        after = world := by
  rw [← Heap.datum?_eq_none_iff]
  unfold set
  cases world.heap.datum? v with
  | none => simp [eq_comm]
  | some datum => simp

theorem assign_eq_error_iff {items : List Value} :
    assign v items world = .error e after ↔
      (world.heap.kind v ∉ [.scalar, .array, .hash] ∧
        e = .cannotAssignList (world.heap.kind v)) ∧ after = world := by
  unfold assign
  generalize world.heap.kind v = kind
  cases kind with
  | scalar | array | hash => simp
  | _ => simp [eq_comm]

theorem bless_eq_error_iff {id : StashId} :
    bless v id world = .error e after ↔
      ((world.heap.kind v = .scalar ∧ world.heap.referent? v = none) ∧ e = .cannotBless) ∧
        after = world := by
  rw [← Heap.invocant?_eq_none_iff]
  unfold bless
  cases world.heap.invocant? v with
  | none => simp [eq_comm]
  | some target => simp

theorem vivify_eq_error_iff {kind : ContainerKind} :
    vivify v kind world = .error e after ↔
      ((world.heap.datum? v ≠ some .undef ∧ world.heap.kind v ≠ .glob) ∧
        world.heap.Astray v kind.kind e) ∧ after = world := by
  rw [← Heap.slots?_eq_none_iff]
  unfold vivify Heap.vivifyUndef Heap.globVivify
  cases hslots : world.heap.slots? v with
  | none =>
    -- Neither a glob nor undefined, it is dereferenced.
    cases hdatum : world.heap.datum? v with
    | none => simp [ask_eq_error_iff, Heap.derefTyped_eq_dereference, Heap.dereference_eq_error_iff]
    | some datum =>
      cases datum with
      | undef => simp
      | _ => simp [ask_eq_error_iff, Heap.derefTyped_eq_dereference, Heap.dereference_eq_error_iff]
  | some slots =>
    cases hdatum : world.heap.datum? v with
    | none => cases hslot : kind.slot slots <;> simp [hslot]
    | some datum =>
      cases datum with
      | undef => simp
      | _ => cases hslot : kind.slot slots <;> simp [hslot]

theorem localizeElement_eq_error_iff {key : String} :
    localizeElement v key world = .error e after ↔
      (world.heap.kind v ≠ .hash ∧ e = .kindMismatch .hash (world.heap.kind v)) ∧
        after = world := by
  rw [← Heap.localizeElement_eq_error_iff key]
  unfold localizeElement
  cases world.heap.localizeElement v key with
  | ok made => simp
  | error e' => simp [eq_comm]

theorem setIsa_eq_error_iff {id : StashId} {parents : List StashId} :
    setIsa id parents world = .error e after ↔
      ((∃ unknown, world.classes.FirstUnknown (id :: parents) unknown ∧
          e = .unknownStash unknown.number) ∨
        (∀ c ∈ id :: parents, world.classes.Known c) ∧
          (∃ parent ∈ parents, id ∈ world.classes.linearIsa parent) ∧
          e = .recursiveInheritance (world.classes.name id)) ∧ after = world := by
  rw [← SymbolTable.setIsa_eq_error_iff]
  unfold setIsa
  cases world.classes.setIsa id parents with
  | ok classes => simp
  | error e' => simp [eq_comm]

theorem intern_eq_error_iff {name : String} :
    intern name world = .error e after ↔
      (world.classes.lookup name = none ∧ UInt32.size ≤ world.classes.size ∧
        e = .stashIdsExhausted) ∧ after = world := by
  rw [← SymbolTable.intern_eq_error_iff]
  unfold intern
  cases world.classes.intern name with
  | ok made => simp
  | error e' => simp [eq_comm]

theorem callCode_eq_error_iff {natives : NativeCode} {args : List Value}
    (h : ¬ ∃ name native, world.heap.content v = .code name (some native)) :
    callCode natives v args world = .error e after ↔
      ((∃ name, world.heap.content v = .code name none ∧ e = .undefinedSubroutine name) ∨
        world.heap.kind v ≠ .code ∧ e = .kindMismatch .code (world.heap.kind v)) ∧
        after = world := by
  unfold callCode Heap.kind
  generalize world.heap.content v = content at h
  cases content with
  | code name native =>
    cases native with
    | none => simp [Content.kind, eq_comm]
    | some native => exact absurd ⟨name, native, rfl⟩ h
  | _ => simp [Content.kind, eq_comm]

end Action

/-! ## All requests -/

namespace Request

/-- **A request fails exactly if it is refused, and then nothing has happened.** The heap with all its
bodies, the classes with their generation, the scopes with their snapshots and the log of warnings are
what they were before the request; so is the world as a whole. -/
theorem run_eq_error_iff {natives : NativeCode} {request : Request} {world after : World}
    {e : ValueError} (declared : ¬ request.RunsNative world) :
    request.run natives world = .error e after ↔ request.Refused world e ∧ after = world := by
  cases request with
  | set v datum => exact Action.set_eq_error_iff
  | assign v items => exact Action.assign_eq_error_iff
  | bless v id => exact Action.bless_eq_error_iff
  | members v =>
    show Action.ask (·.heap.members v) world = .error e after ↔ _
    rw [Action.ask_eq_error_iff, Heap.members_eq_error_iff]
    rfl
  | dereference v wanted =>
    show Action.ask (·.heap.dereference v wanted) world = .error e after ↔ _
    rw [Action.ask_eq_error_iff, Heap.dereference_eq_error_iff]
    rfl
  | derefTyped v wanted =>
    show Action.ask (·.heap.derefTyped v wanted) world = .error e after ↔ _
    rw [Action.ask_eq_error_iff, Heap.derefTyped_eq_dereference, Heap.dereference_eq_error_iff]
    rfl
  | vivify v kind => exact Action.vivify_eq_error_iff
  | localizeElement hash key =>
    show Action.tryHeap (·.localizeElement hash key) world = .error e after ↔ _
    rw [Action.tryHeap_eq_error_iff, Heap.localizeElement_eq_error_iff]
    rfl
  | localizeElementInScope hash key => exact Action.localizeElement_eq_error_iff
  | setIsa id parents => exact Action.setIsa_eq_error_iff
  | intern name => exact Action.intern_eq_error_iff
  | call code args => exact Action.callCode_eq_error_iff declared

/-- A subroutine that is only declared, an open scope in which a scalar was localized, a class with a
method, and a warning. -/
def declaredOnly : World where
  settings := { warnings := true }
  heap := ⟨#[⟨.code "main::f" none, none⟩, ⟨.scalar .undef none, some ⟨0⟩⟩]⟩
  classes := (SymbolTable.empty 100).addStash "main" ⟨0⟩
  scopes := [[.scalar ⟨1⟩ (.int 5) (some 2)]]
  log := { sink := .capture, received := #[.oddHashAssignment] }

theorem run_eq_error_iff_declaredOnly :
    ¬ (call ⟨0⟩ [⟨1⟩]).RunsNative declaredOnly ∧
      (call ⟨0⟩ [⟨1⟩]).run (fun _ _ => pure ⟨1⟩) declaredOnly =
        .error (.undefinedSubroutine "main::f") declaredOnly := by
  have declared : ¬ (call ⟨0⟩ [⟨1⟩]).RunsNative declaredOnly := by
    rintro ⟨name, native, hcontent⟩
    cases hcontent
  exact ⟨declared, (run_eq_error_iff declared).2 ⟨.inl ⟨"main::f", rfl, rfl⟩, rfl⟩⟩

end Request

end DynamicValues
