import DynamicValues.Proofs.Heap.Tour
import Mathlib.Algebra.Group.Nat.Defs
import Mathlib.Data.Set.Function

/-!
# Full copies

A copy with enough hops is a **disjoint isomorphic image** of what the original leads to: each body
reached from the original has exactly one copy, all copies are new bodies, every handle in a copy is
the handle in the original with its body replaced by the copy of that, and nothing else changes.

Enough hops are as many as the heap has bodies: a visit uses up one hop at most, and there are no
more visits than bodies. This is where the size of the heap comes in, `Heap.allHops` being
`2 ^ 64 - 1`.
-/

set_option autoImplicit false

namespace DynamicValues

/-! ## The places of copies -/

namespace Tour

theorem image_of_number {tour : Tour} {size n : Nat} {v : Value}
    (h : tour.numbers[v.id]? = some (some n)) : tour.image size v = ⟨size + n⟩ := by
  simp only [image, h]

@[simp] theorem size_copies (tour : Tour) (heap : Heap) :
    (tour.copies heap).size = tour.visits.size := by
  simp [copies]

/-- While a hop is left, a copy holds the copies of everything that the original holds. -/
theorem copyContent_eq_rename {tour : Tour} {size hops : Nat} (hpos : 0 < hops)
    (content : Content) :
    tour.copyContent size hops content = content.rename (tour.image size) := by
  cases content with
  | scalar datum position =>
    cases datum with
    | ref target => simp only [copyContent, Content.rename, if_pos hpos]
    | undef | int | float | text => rfl
  | array | hash | code | glob | handle | regex => rfl

end Tour

namespace Heap

/-! ## The heap after a copy -/

variable {order : HashOrder}

theorem size_clone (heap : Heap) (order : HashOrder) (v : Value) (hops : Nat) :
    (heap.clone order v hops).2.size = heap.size + (heap.tour order v hops).visits.size := by
  simp [clone, size]

/-- A copy leaves the bodies that were there alone. -/
theorem body_clone_old {heap : Heap} {v w : Value} {hops : Nat} (h : w.id < heap.size) :
    (heap.clone order v hops).2.body w = heap.body w := by
  simp only [size] at h
  simp [clone, body, Array.getElem?_append_left h]

/-- The body that the `n`-th visit gave rise to. -/
theorem body_clone_copy {heap : Heap} {v w : Value} {hops left n : Nat}
    (h : (heap.tour order v hops).visits[n]? = some (w, left)) :
    (heap.clone order v hops).2.body ⟨heap.size + n⟩ =
      { heap.body w with
        content := (heap.tour order v hops).copyContent heap.size left (heap.content w) } := by
  have hplace : heap.bodies.size ≤ heap.size + n := Nat.le_add_right _ _
  have hn : heap.size + n - heap.bodies.size = n := Nat.add_sub_cancel_left _ _
  simp [clone, body, Array.getElem?_append_right hplace, hn, Tour.copies, h, content]

/-! ## Visits of a full copy -/

/-- With a hop for every body of the heap, no visit runs out of hops. -/
theorem hops_pos_of_size_le {heap : Heap} {v w : Value} {hops left n : Nat}
    (enough : heap.size ≤ hops) (h : (heap.tour order v hops).visits[n]? = some (w, left)) :
    0 < left := by
  have progress := heap.tour_progress order v hops
  have hn : n < (heap.tour order v hops).visits.size := (Array.getElem?_eq_some_iff.1 h).1
  have hle := progress.numbered.visits_le
  have hfunded := progress.funded h
  omega

/-- A full copy visits everything that the original leads to. -/
theorem exists_number_of_reaches {heap : Heap} {v w : Value} {hops : Nat} (closed : heap.Closed)
    (hv : v.id < heap.size) (enough : heap.size ≤ hops) (h : heap.Reaches v w) :
    ∃ n, (heap.tour order v hops).numbers[w.id]? = some (some n) := by
  have progress := heap.tour_progress order v hops
  induction h with
  | refl =>
    refine progress.numbered.exists_number hv ?_
    rcases progress.started with hmet | hmem
    · exact hmet
    · exact absurd hmem (by simp)
  | @tail u w hreach hstep ih =>
    obtain ⟨n, hn⟩ := ih
    obtain ⟨left, hvisit⟩ := (progress.numbered.number_iff u n).1 hn
    have hpos : 0 < left := hops_pos_of_size_le enough hvisit
    obtain ⟨left', hsucc⟩ := exists_mem_successors hpos hstep
    refine progress.numbered.exists_number (closed.reaches hv (Reaches.step hreach hstep)) ?_
    rcases progress.covered hvisit hsucc with hmet | hmem
    · exact hmet
    · exact absurd hmem (by simp)

/-! ## Full copies -/

/-- `copy` in `heap'` is a disjoint image of what `v` leads to in `heap`, body for body by `f`. -/
structure DeepCopy (heap : Heap) (v : Value) (heap' : Heap) (copy : Value) (f : Value → Value) :
    Prop where
  start : f v = copy
  /-- Each body reached from `v` has its own copy, and `copy` leads to nothing but copies. -/
  bijOn : Set.BijOn f {b | heap.Reaches v b} {b | heap'.Reaches copy b}
  /-- A copy is a body that was not there before. -/
  fresh : ∀ b, heap.Reaches v b → heap.size ≤ (f b).id ∧ (f b).id < heap'.size
  kind : ∀ b, heap.Reaches v b → heap'.kind (f b) = heap.kind b
  blessing : ∀ b, heap.Reaches v b → heap'.blessing (f b) = heap.blessing b
  /-- A copy holds what the original holds, with copies for originals; a glob keeps its slots. -/
  content : ∀ b, heap.Reaches v b → heap'.content (f b) = (heap.content b).rename f
  position : ∀ b, heap.Reaches v b → heap'.position? (f b) = none
  /-- What was there before is as it was. -/
  unchanged : ∀ b : Value, b.id < heap.size → heap'.body b = heap.body b

/-- A renamed content has no match position. -/
theorem position?_of_content_rename {heap : Heap} {v : Value} {f : Value → Value}
    {content : Content} (h : heap.content v = content.rename f) : heap.position? v = none := by
  unfold position?
  rw [h]
  cases content with
  | scalar datum position => cases datum <;> rfl
  | array | hash | code | glob | handle | regex => rfl

/-- Renaming carries reachability over, in both directions. -/
theorem reaches_rename_iff {heap heap' : Heap} {v y : Value} {f : Value → Value}
    (h : ∀ b, heap.Reaches v b → heap'.content (f b) = (heap.content b).rename f) :
    heap'.Reaches (f v) y ↔ ∃ b, heap.Reaches v b ∧ f b = y := by
  constructor
  · intro hy
    induction hy with
    | refl => exact ⟨v, .refl v, rfl⟩
    | tail _ hstep ih =>
      obtain ⟨b, hb, rfl⟩ := ih
      rw [h b hb, Content.parts_rename, List.mem_map] at hstep
      obtain ⟨part, hpart, rfl⟩ := hstep
      exact ⟨part, Reaches.step hb hpart, rfl⟩
  · rintro ⟨b, hb, rfl⟩
    induction hb with
    | refl => exact .refl _
    | @tail u w hu hstep ih =>
      refine Reaches.step ih ?_
      rw [h u hu, Content.parts_rename]
      exact List.mem_map_of_mem hstep

/-- A copy with a hop for every body of the heap is a full one. -/
theorem deepCopy_of_size_le {heap : Heap} {v : Value} {hops : Nat} (closed : heap.Closed)
    (hv : v.id < heap.size) (enough : heap.size ≤ hops) :
    DeepCopy heap v (heap.clone order v hops).2 (heap.clone order v hops).1
      ((heap.tour order v hops).image heap.size) := by
  have progress := heap.tour_progress order v hops
  -- Everything reached has a number, and its copy stands at that number after the old bodies.
  have place : ∀ b, heap.Reaches v b → ∃ n,
      (heap.tour order v hops).numbers[b.id]? = some (some n) ∧
        (heap.tour order v hops).image heap.size b = ⟨heap.size + n⟩ := by
    intro b hb
    obtain ⟨n, hn⟩ := exists_number_of_reaches closed hv enough hb
    exact ⟨n, hn, Tour.image_of_number hn⟩
  have hbody : ∀ b, heap.Reaches v b →
      (heap.clone order v hops).2.body ((heap.tour order v hops).image heap.size b) =
        { heap.body b with
          content := (heap.content b).rename ((heap.tour order v hops).image heap.size) } := by
    intro b hb
    obtain ⟨n, hn, himage⟩ := place b hb
    obtain ⟨left, hvisit⟩ := (progress.numbered.number_iff b n).1 hn
    rw [himage, body_clone_copy hvisit,
      Tour.copyContent_eq_rename (hops_pos_of_size_le enough hvisit)]
  have hcontent : ∀ b, heap.Reaches v b →
      (heap.clone order v hops).2.content ((heap.tour order v hops).image heap.size b) =
        (heap.content b).rename ((heap.tour order v hops).image heap.size) := by
    intro b hb
    simp only [content, hbody b hb]
  refine ⟨rfl, ⟨?_, ?_, ?_⟩, ?_, ?_, ?_, hcontent, ?_, fun b hb => body_clone_old hb⟩
  · intro b hb
    exact (reaches_rename_iff hcontent).2 ⟨b, hb, rfl⟩
  · intro a ha b hb heq
    obtain ⟨m, hm, hplaceA⟩ := place a ha
    obtain ⟨n, hn, hplaceB⟩ := place b hb
    have hmn : m = n := by
      rw [hplaceA, hplaceB, Value.mk.injEq] at heq
      omega
    obtain ⟨left, hvisitA⟩ := (progress.numbered.number_iff a m).1 hm
    obtain ⟨left', hvisitB⟩ := (progress.numbered.number_iff b n).1 hn
    rw [hmn, hvisitB] at hvisitA
    exact (Prod.mk.inj (Option.some.inj hvisitA)).1.symm
  · intro y hy
    obtain ⟨b, hb, rfl⟩ := (reaches_rename_iff hcontent).1 hy
    exact ⟨b, hb, rfl⟩
  · intro b hb
    obtain ⟨n, hn, hplace⟩ := place b hb
    have hlt := progress.numbered.number_lt hn
    rw [hplace, size_clone]
    exact ⟨by simp, by simpa using hlt⟩
  · intro b hb
    rw [kind, hcontent b hb, Content.kind_rename, kind]
  · intro b hb
    rw [blessing, hbody b hb, blessing]
  · intro b hb
    exact position?_of_content_rename (hcontent b hb)

/-- **A copy with all hops is a disjoint isomorphic image**, of cyclic and shared structure too, in
whatever order it visits the cells of hashes. -/
theorem clone_allHops_deepCopy {heap : Heap} {v : Value} (closed : heap.Closed)
    (hv : v.id < heap.size) (small : heap.size < 2 ^ 64) (order : HashOrder) :
    ∃ f, DeepCopy heap v (heap.clone order v allHops).2 (heap.clone order v allHops).1 f := by
  have enough : heap.size ≤ allHops := by
    unfold allHops
    omega
  exact ⟨_, deepCopy_of_size_le closed hv enough⟩

/-- An array that a cell of its own refers to, and a hash with a cell that is also a cell of the
array and refers to the hash. A third cell of the array refers to a glob. -/
def knot : Heap where
  bodies := #[
    { content := .array #[⟨1⟩, ⟨2⟩, ⟨4⟩], blessing := some ⟨0⟩ },
    { content := .scalar (.ref ⟨0⟩) none },
    { content := .scalar (.ref ⟨3⟩) (some 7) },
    { content := .hash (Table.empty.insert "k" ⟨2⟩) },
    { content := .scalar (.ref ⟨5⟩) none },
    { content := .glob "main" "g" { scalar := some ⟨1⟩ } }]

theorem clone_allHops_deepCopy_knot :
    knot.Closed ∧ (0 < knot.size) ∧ knot.size < 2 ^ 64 ∧
      ∃ f, DeepCopy knot ⟨0⟩ (knot.clone .ascending ⟨0⟩ allHops).2
        (knot.clone .ascending ⟨0⟩ allHops).1 f :=
  ⟨by decide, by decide, by decide,
    clone_allHops_deepCopy (by decide) (by decide) (by decide) .ascending⟩

end Heap

end DynamicValues
