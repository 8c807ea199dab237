import DynamicValues.Proofs.Heap.Copies
import DynamicValues.Proofs.Heap.Evolve
import Mathlib.Order.Lattice.Nat

/-!
# Hop distances and bounded copies

`Heap.HopPath` counts the references on a path from one body to another. A copy with a number of hops
is made **by distance** if the least such count decides what happens to a reference: below the number
its copy refers to the copy of the target, at the number to the target itself (`Heap.ByDistance`).

A tour visits a body once, with the hops left on the path by which it first comes there, and that
need not be a path of the fewest. A reference that it comes to with its last hop spent keeps its
target, even if it comes by again with hops left. These are the references that are *cut short*
(`Heap.CutShort`), and they are all that goes wrong: a copy is made by distance exactly if it cuts no
reference short (`clone_byDistance_iff`). To be cut short, a reference has to be at the end of paths
with different numbers of hops.
-/

set_option autoImplicit false

namespace DynamicValues

namespace Heap

/-! ## Paths that count hops -/

/-- A path from `v` that follows `n` references. The step from an array or hash to one of its cells
does not count. -/
inductive HopPath (heap : Heap) (v : Value) : Nat → Value → Prop where
  | here : HopPath heap v 0 v
  | cell {n : Nat} {u w : Value} (path : HopPath heap v n u) (container : heap.kind u ≠ .scalar)
      (hw : w ∈ (heap.content u).parts) : HopPath heap v n w
  | hop {n : Nat} {u w : Value} (path : HopPath heap v n u) (reference : heap.referent? u = some w) :
      HopPath heap v (n + 1) w

variable {heap : Heap} {order : HashOrder} {v : Value} {hops : Nat}

theorem referent?_of_content {u w : Value} {position : Option Nat}
    (h : heap.content u = .scalar (.ref w) position) : heap.referent? u = some w := by
  simp [referent?, datum?, h, Datum.target?]

theorem content_of_referent? {u w : Value} (h : heap.referent? u = some w) :
    ∃ position, heap.content u = .scalar (.ref w) position := by
  unfold referent? datum? at h
  cases hcontent : heap.content u with
  | scalar datum position =>
    rw [hcontent] at h
    cases datum with
    | ref target =>
      obtain rfl : target = w := by simpa [Datum.target?] using h
      exact ⟨position, rfl⟩
    | undef | int | float | text => simp [Datum.target?] at h
  | array | hash | code | glob | handle | regex => simp [hcontent] at h

theorem kind_of_referent? {u w : Value} (h : heap.referent? u = some w) :
    heap.kind u = .scalar := by
  obtain ⟨position, hcontent⟩ := content_of_referent? h
  rw [kind, hcontent]
  rfl

/-- All that a scalar leads on to is what it refers to. -/
theorem mem_parts_of_scalar {u w : Value} (hkind : heap.kind u = .scalar) :
    w ∈ (heap.content u).parts ↔ heap.referent? u = some w := by
  obtain ⟨datum, position, hcontent⟩ := Content.eq_scalar_of_kind hkind
  simp [hcontent, referent?, datum?, Content.parts]

/-- The way a tour goes on is a path, and each hop of it is one hop fewer left. -/
theorem HopPath.successor {n left left' : Nat} {u w : Value} (path : heap.HopPath v n u)
    (h : (w, left') ∈ heap.successors order u left) :
    ∃ m, heap.HopPath v m w ∧ m + left' = n + left := by
  obtain ⟨hw, hleft⟩ := mem_successors_iff.1 h
  by_cases hkind : heap.kind u = .scalar
  · rw [if_pos hkind] at hleft
    exact ⟨n + 1, .hop path ((mem_parts_of_scalar hkind).1 hw), by omega⟩
  · rw [if_neg hkind] at hleft
    exact ⟨n, .cell path hkind hw, by omega⟩

theorem exists_isLeast_hopPath {n : Nat} {b : Value} (path : heap.HopPath v n b) :
    ∃ k ≤ n, IsLeast {m | heap.HopPath v m b} k :=
  ⟨sInf {m | heap.HopPath v m b}, Nat.sInf_le path, Nat.sInf_mem ⟨n, path⟩,
    fun _ hm => Nat.sInf_le hm⟩

end Heap

/-! ## The hops left at a visit -/

/-- At each body of the tour, and at each one pending, the hops left and those on some path to it
add up to the budget. -/
structure Tour.Spends (heap : Heap) (origin : Value) (budget : Nat) (pending : List (Value × Nat))
    (tour : Tour) : Prop where
  visited : ∀ {n : Nat} {b : Value} {left : Nat}, tour.visits[n]? = some (b, left) →
    ∃ k, heap.HopPath origin k b ∧ k + left = budget
  pending : ∀ {b : Value} {left : Nat}, (b, left) ∈ pending →
    ∃ k, heap.HopPath origin k b ∧ k + left = budget

namespace Tour.Spends

variable {heap : Heap} {order : HashOrder} {origin : Value} {budget : Nat}

theorem start : Spends heap origin budget [(origin, budget)] (.start heap.size) where
  visited h := by simp [Tour.start] at h
  pending h := by
    obtain ⟨rfl, rfl⟩ := by simpa using h
    exact ⟨0, .here, Nat.zero_add _⟩

theorem visit (v : Value) (left : Nat) (pending : List (Value × Nat)) (tour : Tour)
    (h : Spends heap origin budget ((v, left) :: pending) tour) :
    Spends heap origin budget (heap.successors order v left ++ pending) (tour.visit v left) where
  visited hvisit := by
    rcases visits_visit hvisit with hold | ⟨-, rfl, rfl⟩
    · exact h.visited hold
    · exact h.pending List.mem_cons_self
  pending hmem := by
    rcases List.mem_append.1 hmem with hstep | hmem
    · obtain ⟨k, path, hk⟩ := h.pending List.mem_cons_self
      obtain ⟨m, path', hm⟩ := path.successor hstep
      exact ⟨m, path', by omega⟩
    · exact h.pending (List.mem_cons_of_mem _ hmem)

theorem skip (v : Value) (left : Nat) (pending : List (Value × Nat)) (tour : Tour)
    (h : Spends heap origin budget ((v, left) :: pending) tour) :
    Spends heap origin budget pending tour where
  visited := h.visited
  pending hmem := h.pending (List.mem_cons_of_mem _ hmem)

end Tour.Spends

namespace Heap

variable {heap : Heap} {order : HashOrder} {v : Value} {hops : Nat}

/-- A tour comes to a body along a path, with the hops left that the path has not followed. -/
theorem exists_hopPath_of_visit {n left : Nat} {b : Value}
    (h : (heap.tour order v hops).visits[n]? = some (b, left)) :
    ∃ k, heap.HopPath v k b ∧ k + left = hops := by
  have hspends : Tour.Spends heap v hops [] (heap.tour order v hops) :=
    tourFrom_keeps (fun w left pending tour _ => Tour.Spends.visit w left pending tour)
      (fun w left pending tour _ => Tour.Spends.skip w left pending tour) Tour.Spends.start
  exact hspends.visited h

theorem visit_unique {n n' left left' : Nat} {b : Value}
    (h : (heap.tour order v hops).visits[n]? = some (b, left))
    (h' : (heap.tour order v hops).visits[n']? = some (b, left')) : left = left' := by
  have hnumbered := (heap.tour_progress order v hops).numbered
  have hn := (hnumbered.number_iff b n).2 ⟨left, h⟩
  have hn' := (hnumbered.number_iff b n').2 ⟨left', h'⟩
  rw [hn, Option.some.injEq, Option.some.injEq] at hn'
  rw [← hn', h] at h'
  exact (Prod.mk.inj (Option.some.inj h')).2

/-! ## What a copy leads to -/

/-- While a hop is left at a reference, and always at an array or hash, the copy holds the copies of
what the original holds. -/
theorem copied_parts (closed : heap.Closed) {n left : Nat} {b b' : Value}
    (hvisit : (heap.tour order v hops).visits[n]? = some (b, left))
    (hcopy : heap.Copies order v hops b b') (hleft : heap.kind b = .scalar → 0 < left) :
    ((heap.clone order v hops).2.content b').parts =
        (heap.content b).parts.map ((heap.tour order v hops).image heap.size) ∧
      ∀ w ∈ (heap.content b).parts,
        heap.Copies order v hops w ((heap.tour order v hops).image heap.size w) := by
  obtain ⟨m, left', hvisit', hbody⟩ := hcopy.body_eq
  obtain rfl := visit_unique hvisit hvisit'
  constructor
  · have hrename : (heap.tour order v hops).copyContent heap.size left (heap.content b) =
        (heap.content b).rename ((heap.tour order v hops).image heap.size) := by
      cases hcontent : heap.content b with
      | scalar datum position =>
        exact Tour.copyContent_eq_rename (hleft (by simp [kind, hcontent, Content.kind])) _
      | array | hash | code | glob | handle | regex => rfl
    rw [content, hbody, hrename, Content.parts_rename]
  · intro w hw
    -- The tour goes on to `w`, with a hop fewer if it follows a reference.
    obtain ⟨left', hsucc⟩ : ∃ left', (w, left') ∈ heap.successors order b left := by
      by_cases hkind : heap.kind b = .scalar
      · exact exists_mem_successors (hleft hkind) hw
      · exact ⟨left, mem_successors_iff.2 ⟨hw, by simp [hkind]⟩⟩
    have hmet : (heap.tour order v hops).Met w := by
      rcases (heap.tour_progress order v hops).covered hvisit hsucc with hmet | hmem
      · exact hmet
      · exact absurd hmem List.not_mem_nil
    have hlt : w.id < heap.size := closed b.id hcopy.original_lt w (Content.parts_subset_handles _ hw)
    obtain ⟨y, hy⟩ := exists_copies hlt hmet
    exact hy.image_eq ▸ hy

/-- With the last hop spent, the copy of a reference is to the target itself. -/
theorem referent?_of_spent {n : Nat} {b b' target : Value}
    (hvisit : (heap.tour order v hops).visits[n]? = some (b, 0))
    (hcopy : heap.Copies order v hops b b') (href : heap.referent? b = some target) :
    (heap.clone order v hops).2.referent? b' = some target := by
  obtain ⟨m, left, hvisit', hbody⟩ := hcopy.body_eq
  obtain rfl := visit_unique hvisit hvisit'
  obtain ⟨position, hcontent⟩ := content_of_referent? href
  have hcopied : (heap.clone order v hops).2.content b' = .scalar (.ref target) none := by
    rw [content, hbody, hcontent]
    rfl
  exact referent?_of_content hcopied

/-- That is so at the greatest distance that a copy covers. -/
theorem referent?_of_least {b b' target : Value} (least : IsLeast {n | heap.HopPath v n b} hops)
    (href : heap.referent? b = some target) (hcopy : heap.Copies order v hops b b') :
    (heap.clone order v hops).2.referent? b' = some target := by
  obtain ⟨n, left, hvisit⟩ := hcopy.exists_visit
  obtain ⟨k, path, hk⟩ := exists_hopPath_of_visit hvisit
  have hle : hops ≤ k := least.2 path
  obtain rfl : left = 0 := by omega
  exact referent?_of_spent hvisit hcopy href

/-! ## Copies by distance -/

/-- A copy of `v` goes by the least number of references that lead to a body. -/
structure ByDistance (heap : Heap) (order : HashOrder) (v : Value) (hops : Nat) : Prop where
  /-- Nearer than the number of hops, a reference is copied, and the copy is to the copy of the
  target. -/
  follows : ∀ {k : Nat} {b target : Value}, IsLeast {n | heap.HopPath v n b} k → k < hops →
    heap.referent? b = some target →
    ∃ b' target', heap.Copies order v hops b b' ∧ heap.Copies order v hops target target' ∧
      (heap.clone order v hops).2.referent? b' = some target'
  /-- At the number of hops, a reference is copied, and the copy is to the target itself. -/
  stops : ∀ {b target : Value}, IsLeast {n | heap.HopPath v n b} hops →
    heap.referent? b = some target →
    ∃ b', heap.Copies order v hops b b' ∧ (heap.clone order v hops).2.referent? b' = some target
  /-- What the copy leads to within the number of hops is new. -/
  isolates : ∀ {n : Nat} {y : Value}, n ≤ hops →
    (heap.clone order v hops).2.HopPath (heap.clone order v hops).1 n y → heap.size ≤ y.id

/-- The tour comes to the reference `b` with no hop left, though fewer hops lead there. -/
structure CutShort (heap : Heap) (order : HashOrder) (v : Value) (hops : Nat) (b : Value) :
    Prop where
  spent : ∃ n : Nat, (heap.tour order v hops).visits[n]? = some (b, 0)
  reference : (heap.referent? b).isSome
  nearer : ∃ k < hops, heap.HopPath v k b

/-- A reference that is cut short is at the end of a path that follows as many references as the copy
may, and of another that follows fewer. -/
theorem CutShort.two_paths {b : Value} (h : heap.CutShort order v hops b) :
    heap.HopPath v hops b ∧ ∃ k < hops, heap.HopPath v k b := by
  obtain ⟨n, hvisit⟩ := h.spent
  obtain ⟨k, path, hk⟩ := exists_hopPath_of_visit hvisit
  obtain rfl : k = hops := hk
  exact ⟨path, h.nearer⟩

/-- With a hop for every body, no reference is cut short. -/
theorem not_cutShort_of_size_le (enough : heap.size ≤ hops) (b : Value) :
    ¬ heap.CutShort order v hops b := by
  intro h
  obtain ⟨n, hvisit⟩ := h.spent
  exact Nat.lt_irrefl 0 (hops_pos_of_size_le enough hvisit)

section Uncut

variable (uncut : ∀ b, ¬ heap.CutShort order v hops b)
include uncut

/-- Where nothing is cut short, a hop is left at every reference nearer than the number of hops. -/
theorem hops_pos_of_uncut {n k left : Nat} {b : Value} (path : heap.HopPath v k b) (hk : k < hops)
    (hvisit : (heap.tour order v hops).visits[n]? = some (b, left))
    (href : (heap.referent? b).isSome) : 0 < left := by
  rcases Nat.eq_zero_or_pos left with rfl | hpos
  · exact absurd ⟨⟨n, hvisit⟩, href, k, hk, path⟩ (uncut b)
  · exact hpos

/-- Where nothing is cut short, all within the number of hops is copied. -/
theorem exists_copies_of_hopPath (closed : heap.Closed) (hv : v.id < heap.size) {n : Nat}
    {b : Value} (path : heap.HopPath v n b) (hn : n ≤ hops) : ∃ b', heap.Copies order v hops b b' := by
  induction path with
  | here => exact ⟨_, copies_clone hv⟩
  | cell path container hw ih =>
    obtain ⟨u', hcopy⟩ := ih hn
    obtain ⟨i, left, hvisit⟩ := hcopy.exists_visit
    have hparts := copied_parts closed hvisit hcopy fun hkind => absurd hkind container
    exact ⟨_, hparts.2 _ hw⟩
  | @hop n u w path href ih =>
    -- The tour may have come to `u` along another path, but not with its last hop spent.
    obtain ⟨u', hcopy⟩ := ih (Nat.le_of_succ_le hn)
    obtain ⟨i, left, hvisit⟩ := hcopy.exists_visit
    have hpos : 0 < left := hops_pos_of_uncut uncut path hn hvisit (by rw [href]; rfl)
    have hw : w ∈ (heap.content u).parts := (mem_parts_of_scalar (kind_of_referent? href)).2 href
    exact ⟨_, (copied_parts closed hvisit hcopy fun _ => hpos).2 w hw⟩

/-- Where nothing is cut short, a path from the copy within the number of hops goes over copies, along
a path from the original. -/
theorem exists_original_of_hopPath (closed : heap.Closed) (hv : v.id < heap.size) {n : Nat}
    {y : Value} (path : (heap.clone order v hops).2.HopPath (heap.clone order v hops).1 n y)
    (hn : n ≤ hops) :
    ∃ b, heap.Copies order v hops b y ∧ heap.HopPath v n b := by
  induction path with
  | here => exact ⟨v, copies_clone hv, .here⟩
  | cell path container hw ih =>
    obtain ⟨b, hcopy, path'⟩ := ih hn
    obtain ⟨i, left, hvisit⟩ := hcopy.exists_visit
    rw [hcopy.kind_eq] at container
    obtain ⟨hparts, hcopies⟩ := copied_parts closed hvisit hcopy fun h => absurd h container
    rw [hparts] at hw
    obtain ⟨part, hpart, rfl⟩ := List.mem_map.1 hw
    exact ⟨part, hcopies part hpart, .cell path' container hpart⟩
  | @hop n u w path href ih =>
    obtain ⟨b, hcopy, path'⟩ := ih (Nat.le_of_succ_le hn)
    obtain ⟨i, left, hvisit⟩ := hcopy.exists_visit
    -- The copy is of a reference, and of one with a hop left: it is to a copy.
    have hsome : (heap.referent? b).isSome := by rw [← hcopy.isSome_referent?, href]; rfl
    have hpos : 0 < left := hops_pos_of_uncut uncut path' hn hvisit hsome
    obtain ⟨hparts, hcopies⟩ := copied_parts closed hvisit hcopy fun _ => hpos
    obtain ⟨target, hb⟩ := Option.isSome_iff_exists.1 hsome
    have hkind : heap.kind b = .scalar := kind_of_referent? hb
    have hw : w ∈ ((heap.clone order v hops).2.content u).parts :=
      (mem_parts_of_scalar (hcopy.kind_eq.trans hkind)).2 href
    rw [hparts] at hw
    obtain ⟨part, hpart, rfl⟩ := List.mem_map.1 hw
    exact ⟨part, hcopies part hpart, .hop path' ((mem_parts_of_scalar hkind).1 hpart)⟩

theorem byDistance_of_uncut (closed : heap.Closed) (hv : v.id < heap.size) :
    heap.ByDistance order v hops where
  follows := by
    intro k b target least hk href
    obtain ⟨b', hcopy⟩ := exists_copies_of_hopPath uncut closed hv least.1 (Nat.le_of_lt hk)
    obtain ⟨i, left, hvisit⟩ := hcopy.exists_visit
    have hpos : 0 < left := hops_pos_of_uncut uncut least.1 hk hvisit (by rw [href]; rfl)
    obtain ⟨hparts, hcopies⟩ := copied_parts closed hvisit hcopy fun _ => hpos
    have hkind : heap.kind b = .scalar := kind_of_referent? href
    have htarget : target ∈ (heap.content b).parts := (mem_parts_of_scalar hkind).2 href
    refine ⟨b', _, hcopy, hcopies target htarget, ?_⟩
    rw [← mem_parts_of_scalar (hcopy.kind_eq.trans hkind), hparts]
    exact List.mem_map_of_mem htarget
  stops := by
    intro b target least href
    obtain ⟨b', hcopy⟩ := exists_copies_of_hopPath uncut closed hv least.1 (Nat.le_refl hops)
    exact ⟨b', hcopy, referent?_of_least least href hcopy⟩
  isolates := by
    intro n y hn path
    obtain ⟨b, hcopy, -⟩ := exists_original_of_hopPath uncut closed hv path hn
    exact hcopy.copy_ge

end Uncut

/-- A reference that is cut short keeps its target, which is no copy. -/
theorem ByDistance.uncut (byDistance : heap.ByDistance order v hops) (b : Value) :
    ¬ heap.CutShort order v hops b := by
  intro hcut
  obtain ⟨n, hvisit⟩ := hcut.spent
  obtain ⟨target, href⟩ := Option.isSome_iff_exists.1 hcut.reference
  obtain ⟨k, hk, path⟩ := hcut.nearer
  obtain ⟨k', hk', least⟩ := exists_isLeast_hopPath path
  obtain ⟨b', target', hcopy, htarget, href'⟩ :=
    byDistance.follows least (Nat.lt_of_le_of_lt hk' hk) href
  rw [referent?_of_spent hvisit hcopy href] at href'
  obtain rfl := Option.some.inj href'
  exact absurd htarget.original_lt (Nat.not_lt_of_le htarget.copy_ge)

/-- **A copy goes by distance exactly if it cuts no reference short**, in whatever order it visits the
cells of hashes; which references it cuts short depends on that order. Each of them is at the end of
paths with different numbers of hops, and with a hop for every body there is none. However the paths
run, nothing farther than the number of hops is copied, and the copy of a reference at just that
distance is to the target itself. -/
theorem clone_byDistance_iff {heap : Heap} {v : Value} (closed : heap.Closed)
    (hv : v.id < heap.size) (order : HashOrder) (hops : Nat) :
    (heap.ByDistance order v hops ↔ ∀ b, ¬ heap.CutShort order v hops b) ∧
    (∀ b, heap.CutShort order v hops b →
      heap.HopPath v hops b ∧ ∃ k < hops, heap.HopPath v k b) ∧
    (heap.size ≤ hops → heap.ByDistance order v hops) ∧
    (∀ x y, heap.Copies order v hops x y → ∃ k ≤ hops, heap.HopPath v k x) ∧
    ∀ b b' target, IsLeast {n | heap.HopPath v n b} hops → heap.referent? b = some target →
      heap.Copies order v hops b b' → (heap.clone order v hops).2.referent? b' = some target := by
  refine ⟨⟨fun h => h.uncut, fun uncut => byDistance_of_uncut uncut closed hv⟩,
    fun b h => h.two_paths, fun enough => ?_, ?_, ?_⟩
  · exact byDistance_of_uncut (not_cutShort_of_size_le enough) closed hv
  · intro x y hcopy
    obtain ⟨n, left, hvisit⟩ := hcopy.exists_visit
    obtain ⟨k, path, hk⟩ := exists_hopPath_of_visit hvisit
    exact ⟨k, by omega, path⟩
  · intro b b' target least href hcopy
    exact referent?_of_least least href hcopy

/-- An array with two references for its cells: the first to the second cell, and that to another
array. -/
def crossed : Heap where
  bodies := #[
    { content := .array #[⟨1⟩, ⟨2⟩] },
    { content := .scalar (.ref ⟨2⟩) none },
    { content := .scalar (.ref ⟨3⟩) none },
    { content := .array #[] }]

/-- A hop for each of the four bodies is enough. -/
theorem clone_byDistance_iff_crossed :
    crossed.Closed ∧ 0 < crossed.size ∧ crossed.ByDistance .ascending ⟨0⟩ 4 ∧
      ∀ b, ¬ crossed.CutShort .ascending ⟨0⟩ 4 b := by
  have closed : crossed.Closed := by decide
  have hv : 0 < crossed.size := by decide
  obtain ⟨hiff, -, hfull, -⟩ := clone_byDistance_iff (v := ⟨0⟩) closed hv .ascending 4
  have byDistance : crossed.ByDistance .ascending ⟨0⟩ 4 := hfull (by decide)
  exact ⟨closed, hv, byDistance, hiff.1 byDistance⟩

/-- **A copy with one hop shares what a cell of the array itself refers to**: the hop is spent on the
way to that cell over the first one. There is no hash here, so no order mends it. -/
theorem not_byDistance_crossed : ¬ ∃ order, crossed.ByDistance order ⟨0⟩ 1 := by
  rintro ⟨order, byDistance⟩
  have hspent : (crossed.tour order ⟨0⟩ 1).visits[2]? = some (⟨2⟩, 0) := by cbv
  have hcell : crossed.HopPath ⟨0⟩ 0 ⟨2⟩ := .cell .here (by decide) (by decide)
  exact byDistance.uncut ⟨2⟩ ⟨⟨2, hspent⟩, by decide, 0, Nat.zero_lt_one, hcell⟩

end Heap

end DynamicValues
