import DynamicValues.Proofs.Heap.DeepCopy
import Mathlib.Data.List.Forall2

/-!
# Copies cannot be told from their originals

`Heap.Copies` pairs each body that a copy of a value copies with the body made for it. However few
hops the copy may take, the pairs are one to one, all bodies on the one side were there before and
all on the other are new, and the old bodies stay as they are.

A copy holds copies and, where the hops were spent, originals. So what it leads to is not an image of
what the original leads to, but it is **alike**: the pairs, together with each body paired with
itself, are a bisimulation (`clone_bisimilar`). Whoever starts at the copy and follows references and
looks at cells sees what he would have seen from the original, but for match positions.
-/

set_option autoImplicit false

namespace DynamicValues

/-! ## Contents up to a relation -/

/-- The same datum, or references to related bodies. -/
inductive Datum.Related (R : Value → Value → Prop) : Datum → Datum → Prop where
  | same (datum : Datum) : Related R datum datum
  | ref {a b : Value} (h : R a b) : Related R (.ref a) (.ref b)

/-- Contents of one form that hold related bodies in the same places. A match position does not
count, and the slots of a glob are not followed: they hold the same bodies. -/
inductive Content.Related (R : Value → Value → Prop) : Content → Content → Prop where
  | scalar {datum datum' : Datum} {position position' : Option Nat}
      (h : Datum.Related R datum datum') :
      Related R (.scalar datum position) (.scalar datum' position')
  /-- Arrays of one length with related cells at each index. -/
  | array {items items' : Array Value} (h : List.Forall₂ R items.toList items'.toList) :
      Related R (.array items) (.array items')
  /-- Hashes of the same keys with related cells under each. -/
  | hash {entries entries' : Table Value}
      (h : ∀ key, Option.Rel R (entries.get? key) (entries'.get? key)) :
      Related R (.hash entries) (.hash entries')
  | code (name : String) (native : Option Native) : Related R (.code name native) (.code name native)
  | glob (package name : String) (slots : GlobSlots) :
      Related R (.glob package name slots) (.glob package name slots)
  | handle (name : String) : Related R (.handle name) (.handle name)
  | regex (pattern : CompiledPattern) : Related R (.regex pattern) (.regex pattern)

/-- Related bodies are of one kind and of one class, and they hold related bodies. -/
structure Heap.Bisimulation (heap : Heap) (R : Value → Value → Prop) : Prop where
  kind : ∀ a b, R a b → heap.kind a = heap.kind b
  blessing : ∀ a b, R a b → heap.blessing a = heap.blessing b
  content : ∀ a b, R a b → Content.Related R (heap.content a) (heap.content b)

theorem lookupEntry_map {α β : Type} (f : α → β) (key : String) (entries : List (String × α)) :
    lookupEntry key (entries.map fun entry => (entry.1, f entry.2)) =
      (lookupEntry key entries).map f := by
  induction entries with
  | nil => rfl
  | cons entry rest ih =>
    simp only [List.map_cons, lookupEntry]
    split
    · rfl
    · exact ih

@[simp] theorem Table.get?_map {α β : Type} (f : α → β) (table : Table α) (key : String) :
    (table.map f).get? key = (table.get? key).map f :=
  lookupEntry_map f key table.entries

theorem Content.Related.kind_eq {R : Value → Value → Prop} {content content' : Content}
    (h : Content.Related R content content') : content.kind = content'.kind := by
  cases h <;> rfl

theorem Content.Related.refl {R : Value → Value → Prop} (hrefl : ∀ w, R w w) (content : Content) :
    Content.Related R content content := by
  cases content with
  | scalar datum position => exact .scalar (.same datum)
  | array items => exact .array (List.forall₂_same.2 fun w _ => hrefl w)
  | hash entries =>
    refine .hash fun key => ?_
    cases entries.get? key with
    | none => exact .none
    | some cell => exact .some (hrefl cell)
  | code name native => exact .code name native
  | glob package name slots => exact .glob package name slots
  | handle name => exact .handle name
  | regex pattern => exact .regex pattern

/-- A copied content is related to the original one, if each body is to itself and to its copy. A
reference may be to either, as hops are left or not. -/
theorem Tour.related_copyContent {R : Value → Value → Prop} {tour : Tour} {size : Nat}
    (hrefl : ∀ w, R w w) (himage : ∀ w, R w (tour.image size w)) (hops : Nat) (content : Content) :
    Content.Related R content (tour.copyContent size hops content) := by
  cases content with
  | scalar datum position =>
    cases datum with
    | ref target =>
      refine .scalar (.ref ?_)
      split
      · exact himage target
      · exact hrefl target
    | undef | int | float | text => exact .scalar (.same _)
  | array items =>
    refine .array ?_
    rw [Array.toList_map, List.forall₂_map_right_iff, List.forall₂_same]
    exact fun w _ => himage w
  | hash entries =>
    refine .hash fun key => ?_
    rw [Table.get?_map]
    cases entries.get? key with
    | none => exact .none
    | some cell => exact .some (himage cell)
  | code | glob | handle | regex => exact .refl hrefl _

/-! ## Originals and copies -/

namespace Heap

/-- A copy of `v` that takes at most `hops` hops makes `y` for `x`: the copies stand after the old
bodies, in the order in which the tour visits the originals. -/
def Copies (heap : Heap) (order : HashOrder) (v : Value) (hops : Nat) (x y : Value) : Prop :=
  ∃ n left, (heap.tour order v hops).visits[n]? = some (x, left) ∧ y = ⟨heap.size + n⟩

section Copies

variable {heap : Heap} {order : HashOrder} {v x x' y y' : Value} {hops : Nat}

theorem copies_iff_number :
    heap.Copies order v hops x y ↔
      ∃ n, (heap.tour order v hops).numbers[x.id]? = some (some n) ∧ y = ⟨heap.size + n⟩ := by
  have hnumbered := (heap.tour_progress order v hops).numbered
  constructor
  · rintro ⟨n, left, hvisit, rfl⟩
    exact ⟨n, (hnumbered.number_iff x n).2 ⟨left, hvisit⟩, rfl⟩
  · rintro ⟨n, hnumber, rfl⟩
    obtain ⟨left, hvisit⟩ := (hnumbered.number_iff x n).1 hnumber
    exact ⟨n, left, hvisit, rfl⟩

theorem Copies.image_eq (h : heap.Copies order v hops x y) :
    (heap.tour order v hops).image heap.size x = y := by
  obtain ⟨n, hnumber, rfl⟩ := copies_iff_number.1 h
  exact Tour.image_of_number hnumber

/-- A body without a copy is replaced by itself. -/
theorem image_eq_or_copies (heap : Heap) (order : HashOrder) (v : Value) (hops : Nat) (x : Value) :
    (heap.tour order v hops).image heap.size x = x ∨
      heap.Copies order v hops x ((heap.tour order v hops).image heap.size x) := by
  unfold Tour.image
  split
  · next n hnumber => exact .inr (copies_iff_number.2 ⟨n, hnumber, rfl⟩)
  · exact .inl rfl

/-- What was met inside the heap has a copy. -/
theorem exists_copies (hx : x.id < heap.size) (hmet : (heap.tour order v hops).Met x) :
    ∃ y, heap.Copies order v hops x y := by
  obtain ⟨n, hnumber⟩ := (heap.tour_progress order v hops).numbered.exists_number hx hmet
  exact ⟨_, copies_iff_number.2 ⟨n, hnumber, rfl⟩⟩

theorem Copies.right_unique (h : heap.Copies order v hops x y) (h' : heap.Copies order v hops x y') :
    y = y' := h.image_eq.symm.trans h'.image_eq

theorem Copies.left_unique (h : heap.Copies order v hops x y) (h' : heap.Copies order v hops x' y) :
    x = x' := by
  obtain ⟨n, left, hvisit, rfl⟩ := h
  obtain ⟨n', left', hvisit', heq⟩ := h'
  have hn : n = n' := by
    rw [Value.mk.injEq] at heq
    omega
  rw [← hn, hvisit] at hvisit'
  exact (Prod.mk.inj (Option.some.inj hvisit')).1

theorem Copies.original_lt (h : heap.Copies order v hops x y) : x.id < heap.size := by
  obtain ⟨n, hnumber, -⟩ := copies_iff_number.1 h
  have hsize := (heap.tour_progress order v hops).numbered.size_numbers
  have hlt := (Array.getElem?_eq_some_iff.1 hnumber).1
  omega

theorem Copies.copy_ge (h : heap.Copies order v hops x y) : heap.size ≤ y.id := by
  obtain ⟨n, left, -, rfl⟩ := h
  exact Nat.le_add_right _ _

theorem Copies.copy_lt (h : heap.Copies order v hops x y) :
    y.id < (heap.clone order v hops).2.size := by
  obtain ⟨n, left, hvisit, rfl⟩ := h
  have hn := (Array.getElem?_eq_some_iff.1 hvisit).1
  rw [size_clone]
  exact Nat.add_lt_add_left hn _

/-- The bodies that a copy adds are copies, all of them. -/
theorem exists_original (hnew : heap.size ≤ y.id) (hy : y.id < (heap.clone order v hops).2.size) :
    ∃ x, heap.Copies order v hops x y := by
  rw [size_clone] at hy
  have hn : y.id - heap.size < (heap.tour order v hops).visits.size := by omega
  refine ⟨_, y.id - heap.size, _, Array.getElem?_eq_getElem hn, ?_⟩
  rw [Nat.add_sub_cancel' hnew]

theorem copies_clone (hv : v.id < heap.size) :
    heap.Copies order v hops v (heap.clone order v hops).1 := by
  have hmet : (heap.tour order v hops).Met v := by
    rcases (heap.tour_progress order v hops).started with hmet | hmem
    · exact hmet
    · exact absurd hmem List.not_mem_nil
  obtain ⟨y, hy⟩ := exists_copies hv hmet
  have hclone : (heap.clone order v hops).1 = y := hy.image_eq
  exact hclone ▸ hy

/-- The body of a copy, by the hops that were left when the tour came to the original. -/
theorem Copies.body_eq (h : heap.Copies order v hops x y) :
    ∃ n left : Nat, (heap.tour order v hops).visits[n]? = some (x, left) ∧
      (heap.clone order v hops).2.body y =
        { heap.body x with
          content := (heap.tour order v hops).copyContent heap.size left (heap.content x) } := by
  obtain ⟨n, left, hvisit, rfl⟩ := h
  exact ⟨n, left, hvisit, body_clone_copy hvisit⟩

theorem Copies.exists_visit (h : heap.Copies order v hops x y) :
    ∃ n left : Nat, (heap.tour order v hops).visits[n]? = some (x, left) := by
  obtain ⟨n, left, hvisit, -⟩ := h
  exact ⟨n, left, hvisit⟩

/-- A body holds what its copy holds, up to copies. Both are read after the copying, when the body is
as it was before. -/
theorem Copies.related_content (h : heap.Copies order v hops x y) :
    Content.Related (fun a b => a = b ∨ heap.Copies order v hops a b)
      ((heap.clone order v hops).2.content x) ((heap.clone order v hops).2.content y) := by
  obtain ⟨n, left, -, hbody⟩ := h.body_eq
  have hold : (heap.clone order v hops).2.content x = heap.content x := by
    rw [content, body_clone_old h.original_lt, content]
  have hnew : (heap.clone order v hops).2.content y =
      (heap.tour order v hops).copyContent heap.size left (heap.content x) := by
    rw [content, hbody]
  rw [hold, hnew]
  refine Tour.related_copyContent (fun w => .inl rfl) (fun w => ?_) left (heap.content x)
  exact (image_eq_or_copies heap order v hops w).imp_left Eq.symm

theorem Copies.kind_eq (h : heap.Copies order v hops x y) :
    (heap.clone order v hops).2.kind y = heap.kind x := by
  have hkind : (heap.clone order v hops).2.kind x = (heap.clone order v hops).2.kind y :=
    h.related_content.kind_eq
  rw [← hkind, kind, content, body_clone_old h.original_lt, kind, content]

theorem Copies.blessing_eq (h : heap.Copies order v hops x y) :
    (heap.clone order v hops).2.blessing y = heap.blessing x := by
  obtain ⟨n, left, -, hbody⟩ := h.body_eq
  rw [blessing, hbody, blessing]

theorem Copies.isSome_referent? (h : heap.Copies order v hops x y) :
    ((heap.clone order v hops).2.referent? y).isSome = (heap.referent? x).isSome := by
  obtain ⟨n, left, -, hbody⟩ := h.body_eq
  unfold referent? datum?
  rw [content, hbody]
  cases heap.content x with
  | scalar datum position => cases datum <;> rfl
  | array | hash | code | glob | handle | regex => rfl

end Copies

/-! ## The bisimulation -/

/-- **A copy is alike to its original, whatever the number of hops** and the order in which the cells
of hashes are visited, and making it changes nothing else. The old bodies stay as they are, and the
copy of the value is a new one. Each new body is the copy of one old body, a body is copied once at
most, and no two share a copy. Each body and its copy, and each body and itself, cannot be told apart
by kind, class and what they hold. -/
theorem clone_bisimilar {heap : Heap} {v : Value} (hv : v.id < heap.size) (order : HashOrder)
    (hops : Nat) :
    let copy := (heap.clone order v hops).1
    let after := (heap.clone order v hops).2
    (∀ b : Value, b.id < heap.size → after.body b = heap.body b) ∧
    (heap.size ≤ copy.id ∧ copy.id < after.size) ∧ heap.Copies order v hops v copy ∧
    (∀ y : Value, heap.size ≤ y.id → y.id < after.size → ∃ x, heap.Copies order v hops x y) ∧
    (∀ x y y', heap.Copies order v hops x y → heap.Copies order v hops x y' → y = y') ∧
    (∀ x x' y, heap.Copies order v hops x y → heap.Copies order v hops x' y → x = x') ∧
    after.Bisimulation fun a b => a = b ∨ heap.Copies order v hops a b := by
  intro copy after
  have hcopy : heap.Copies order v hops v copy := copies_clone hv
  refine ⟨fun b hb => body_clone_old hb, ⟨hcopy.copy_ge, hcopy.copy_lt⟩, hcopy,
    fun y hnew hy => exists_original hnew hy, fun x y y' h h' => h.right_unique h',
    fun x x' y h h' => h.left_unique h', ?_⟩
  constructor
  case kind =>
    rintro a b (rfl | h)
    · rfl
    · exact h.related_content.kind_eq
  case blessing =>
    rintro a b (rfl | h)
    · rfl
    · rw [h.blessing_eq, blessing, body_clone_old h.original_lt, blessing]
  case content =>
    rintro a b (rfl | h)
    · exact .refl (fun w => .inl rfl) _
    · exact h.related_content

/-- A copy of the knot without hops: its references are to the old bodies. -/
theorem clone_bisimilar_knot :
    (0 < knot.size) ∧ knot.Copies .ascending ⟨0⟩ 0 ⟨0⟩ (knot.clone .ascending ⟨0⟩ 0).1 ∧
      (knot.clone .ascending ⟨0⟩ 0).2.Bisimulation fun a b =>
        a = b ∨ knot.Copies .ascending ⟨0⟩ 0 a b := by
  have hv : (⟨0⟩ : Value).id < knot.size := by decide
  obtain ⟨-, -, hcopy, -, -, -, hbisimulation⟩ := clone_bisimilar hv .ascending 0
  exact ⟨by decide, hcopy, hbisimulation⟩

end Heap

end DynamicValues
