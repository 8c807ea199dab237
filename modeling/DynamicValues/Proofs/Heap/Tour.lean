import DynamicValues.Heap.Clone
import DynamicValues.Proofs.Heap.Reach

/-!
# Tours

What the tour of a copy has done when it is over. `Heap.tourFrom` is a loop over a list of pending
bodies, so every fact about it is an invariant of that list together with the tour so far.
`Heap.tourFrom_keeps` is the one induction; an invariant then is what a visit and a skip keep.

`Tour.Progress` collects the four that copying needs:

* the numbers and the visits say the same, so **no body is visited twice**;
* what is visited or pending **is reached** from the start;
* what a visited body leads on to **is met or pending**, and at the end nothing is pending;
* a visit uses up one hop at most, so the **hops** at a visit and its number together never fall
  below the hops in the beginning.
-/

set_option autoImplicit false

namespace DynamicValues

variable {order : HashOrder}

/-! ## The loop -/

/-- What holds in the beginning and is kept by a visit and by a skip holds at the end, where nothing
is pending. -/
theorem Heap.tourFrom_keeps {heap : Heap} {I : List (Value × Nat) → Tour → Prop}
    (visit : ∀ v hops pending tour, tour.numbers[v.id]? = some none →
      I ((v, hops) :: pending) tour →
        I (heap.successors order v hops ++ pending) (tour.visit v hops))
    (skip : ∀ v hops pending tour, tour.numbers[v.id]? ≠ some none →
      I ((v, hops) :: pending) tour → I pending tour)
    {pending : List (Value × Nat)} {tour : Tour} (h : I pending tour) :
    I [] (heap.tourFrom order pending tour) := by
  fun_induction Heap.tourFrom heap order pending tour with
  | case1 tour => exact h
  | case2 tour v hops pending hnew ih => exact ih (visit v hops pending tour hnew h)
  | case3 tour v hops pending hold ih => exact ih (skip v hops pending tour hold h)

namespace Tour

/-! ## Numbering -/

/-- A body has a number exactly if the visit with that number is a visit of it. -/
structure Numbered (tour : Tour) (size : Nat) : Prop where
  size_numbers : tour.numbers.size = size
  number_iff : ∀ (v : Value) (n : Nat),
    tour.numbers[v.id]? = some (some n) ↔ ∃ hops, tour.visits[n]? = some (v, hops)
  /-- Each visit numbers one more body. -/
  visits_le : tour.visits.size + tour.unvisited ≤ size

theorem numbered_start (size : Nat) : (start size).Numbered size where
  size_numbers := by simp [start]
  number_iff v n := by simp [start, Array.getElem?_replicate]
  visits_le := by
    have hcount : (start size).unvisited ≤ (start size).numbers.size := Array.countP_le_size
    simpa [start] using hcount

theorem Numbered.visit {tour : Tour} {size : Nat} (h : tour.Numbered size) {v : Value} (hops : Nat)
    (hnew : tour.numbers[v.id]? = some none) : (tour.visit v hops).Numbered size where
  size_numbers := by simpa [Tour.visit] using h.size_numbers
  number_iff w n := by
    have hlt : v.id < tour.numbers.size := (Array.getElem?_eq_some_iff.1 hnew).1
    -- The new number is the old count of visits, which no earlier visit has.
    have hfresh (k : Nat) : ¬ ∃ hops, tour.visits[k]? = some (v, hops) := by
      intro hk
      rw [← h.number_iff v k, hnew] at hk
      simp at hk
    by_cases hw : w = v
    · subst hw
      have hnumber : (tour.visit w hops).numbers[w.id]? = some (some tour.visits.size) := by
        simp [Tour.visit, hlt]
      rw [hnumber]
      by_cases hn : n = tour.visits.size
      · subst hn
        simp [Tour.visit]
      · have hvisit : (tour.visit w hops).visits[n]? = tour.visits[n]? := by
          simp [Tour.visit, Array.getElem?_push, hn]
        rw [hvisit]
        simp only [Option.some.injEq, Ne.symm hn, false_iff]
        exact hfresh n
    · have hid : v.id ≠ w.id := fun e => hw (by cases v; cases w; simp_all)
      have hnumber : (tour.visit v hops).numbers[w.id]? = tour.numbers[w.id]? := by
        simp [Tour.visit, hid]
      rw [hnumber, h.number_iff w n]
      by_cases hn : n = tour.visits.size
      · subst hn
        simp [Tour.visit, Ne.symm hw]
      · simp [Tour.visit, Array.getElem?_push, hn]
  visits_le := by
    have hless : (tour.visit v hops).unvisited < tour.unvisited := unvisited_visit_lt hnew
    have hle := h.visits_le
    have hpush : (tour.visit v hops).visits.size = tour.visits.size + 1 := by simp [Tour.visit]
    omega

theorem Numbered.number_lt {tour : Tour} {size : Nat} (h : tour.Numbered size) {v : Value} {n : Nat}
    (hn : tour.numbers[v.id]? = some (some n)) : n < tour.visits.size := by
  obtain ⟨hops, hvisit⟩ := (h.number_iff v n).1 hn
  exact (Array.getElem?_eq_some_iff.1 hvisit).1

/-! ## Bodies met -/

/-- A body that a tour has nothing more to do with: it is visited, or no body of the heap. -/
def Met (tour : Tour) (v : Value) : Prop := tour.numbers[v.id]? ≠ some none

theorem met_visit_self {tour : Tour} (v : Value) (hops : Nat) : (tour.visit v hops).Met v := by
  by_cases hlt : v.id < tour.numbers.size
  · simp [Met, visit, hlt]
  · simp [Met, visit, hlt]

theorem Met.visit {tour : Tour} {w : Value} (h : tour.Met w) (v : Value) (hops : Nat) :
    (tour.visit v hops).Met w := by
  by_cases hw : v.id = w.id
  · have : v = w := by cases v; cases w; simp_all
    exact this ▸ met_visit_self v hops
  · simpa [Met, Tour.visit, Array.getElem?_setIfInBounds, hw] using h

/-- What was met inside the heap was visited. -/
theorem Numbered.exists_number {tour : Tour} {size : Nat} (h : tour.Numbered size) {v : Value}
    (hv : v.id < size) (hmet : tour.Met v) : ∃ n, tour.numbers[v.id]? = some (some n) := by
  have hlt : v.id < tour.numbers.size := h.size_numbers ▸ hv
  cases hnumber : tour.numbers[v.id]? with
  | none => simp at hnumber; omega
  | some number =>
    cases number with
    | none => exact absurd hnumber hmet
    | some n => exact ⟨n, rfl⟩

end Tour

namespace Heap

/-! ## Successors -/

/-- A tour goes on to what a body leads on to; from a scalar this takes a hop. -/
theorem mem_successors_iff {heap : Heap} {v w : Value} {hops left : Nat} :
    (w, left) ∈ heap.successors order v hops ↔
      w ∈ (heap.content v).parts ∧ hops = left + (if heap.kind v = .scalar then 1 else 0) := by
  have hkind : heap.kind v = (heap.content v).kind := rfl
  rw [hkind]
  unfold successors
  cases hcontent : heap.content v with
  | scalar datum position =>
    cases datum with
    | ref target =>
      cases hops with
      | zero => simp [Content.kind]
      | succ hops => simp [Content.kind, Content.parts, Datum.target?, eq_comm]
    | undef | int | float | text => simp [Content.parts, Datum.target?]
  | array items => simp [Content.kind, Content.parts, and_left_comm]
  | hash entries => simp [Content.kind, Content.parts, order.mem_cells_iff, and_left_comm]
  | code | glob | handle | regex => simp [Content.parts]

theorem mem_parts_of_mem_successors {heap : Heap} {v w : Value} {hops left : Nat}
    (h : (w, left) ∈ heap.successors order v hops) : w ∈ (heap.content v).parts :=
  (mem_successors_iff.1 h).1

/-- A step uses up one hop at most. -/
theorem hops_le_of_mem_successors {heap : Heap} {v w : Value} {hops left : Nat}
    (h : (w, left) ∈ heap.successors order v hops) : hops ≤ left + 1 := by
  have hhops := (mem_successors_iff.1 h).2
  split at hhops <;> omega

/-- While a hop is left, a tour goes on to everything that a body leads on to. -/
theorem exists_mem_successors {heap : Heap} {v w : Value} {hops : Nat} (hpos : 0 < hops)
    (h : w ∈ (heap.content v).parts) : ∃ left, (w, left) ∈ heap.successors order v hops := by
  by_cases hkind : heap.kind v = .scalar
  · exact ⟨hops - 1, mem_successors_iff.2 ⟨h, by simp [hkind]; omega⟩⟩
  · exact ⟨hops, mem_successors_iff.2 ⟨h, by simp [hkind]⟩⟩

end Heap

namespace Tour

/-! ## The invariant of the loop -/

/-- What a tour from `origin` with `budget` hops keeps, `pending` being still to be visited. -/
structure Progress (heap : Heap) (order : HashOrder) (origin : Value) (budget : Nat)
    (pending : List (Value × Nat)) (tour : Tour) : Prop where
  numbered : tour.Numbered heap.size
  started : tour.Met origin ∨ (origin, budget) ∈ pending
  reached : ∀ {n : Nat} {v : Value} {hops : Nat}, tour.visits[n]? = some (v, hops) → heap.Reaches origin v
  reached_pending : ∀ {v : Value} {hops : Nat}, (v, hops) ∈ pending → heap.Reaches origin v
  covered : ∀ {n : Nat} {v w : Value} {hops left : Nat}, tour.visits[n]? = some (v, hops) →
    (w, left) ∈ heap.successors order v hops → tour.Met w ∨ (w, left) ∈ pending
  funded : ∀ {n : Nat} {v : Value} {hops : Nat}, tour.visits[n]? = some (v, hops) → budget ≤ hops + n
  funded_pending : ∀ {v : Value} {hops : Nat}, (v, hops) ∈ pending → budget ≤ hops + tour.visits.size

theorem progress_start (heap : Heap) (order : HashOrder) (origin : Value) (budget : Nat) :
    Progress heap order origin budget [(origin, budget)] (start heap.size) where
  numbered := numbered_start heap.size
  started := .inr List.mem_cons_self
  reached h := by simp [start] at h
  reached_pending h := by
    simp only [List.mem_singleton, Prod.mk.injEq] at h
    exact h.1 ▸ Heap.Reaches.refl _
  covered h _ := by simp [start] at h
  funded h := by simp [start] at h
  funded_pending h := by simp_all [start]

/-- A visit after a visit is an old one, or the one just made. -/
theorem visits_visit {tour : Tour} {v w : Value} {n hops left : Nat}
    (h : (tour.visit v hops).visits[n]? = some (w, left)) :
    tour.visits[n]? = some (w, left) ∨ (n = tour.visits.size ∧ w = v ∧ left = hops) := by
  simp only [visit, Array.getElem?_push] at h
  split at h
  · simp_all
  · exact .inl h

theorem Progress.visit {heap : Heap} {origin : Value} {budget : Nat} (v : Value) (hops : Nat)
    (pending : List (Value × Nat)) (tour : Tour) (hnew : tour.numbers[v.id]? = some none)
    (h : Progress heap order origin budget ((v, hops) :: pending) tour) :
    Progress heap order origin budget (heap.successors order v hops ++ pending)
      (tour.visit v hops) where
  numbered := h.numbered.visit hops hnew
  started := by
    rcases h.started with hmet | hmem
    · exact .inl (hmet.visit v hops)
    · rcases List.mem_cons.1 hmem with heq | hmem
      · obtain ⟨rfl, rfl⟩ := Prod.mk.inj heq
        exact .inl (met_visit_self _ _)
      · exact .inr (List.mem_append_right _ hmem)
  reached hvisit := by
    rcases visits_visit hvisit with hold | ⟨-, rfl, -⟩
    · exact h.reached hold
    · exact h.reached_pending List.mem_cons_self
  reached_pending hmem := by
    rcases List.mem_append.1 hmem with hstep | hmem
    · exact (h.reached_pending List.mem_cons_self).step (Heap.mem_parts_of_mem_successors hstep)
    · exact h.reached_pending (List.mem_cons_of_mem _ hmem)
  covered hvisit hstep := by
    rcases visits_visit hvisit with hold | ⟨-, rfl, rfl⟩
    · rcases h.covered hold hstep with hmet | hmem
      · exact .inl (hmet.visit v hops)
      · rcases List.mem_cons.1 hmem with heq | hmem
        · obtain ⟨rfl, rfl⟩ := Prod.mk.inj heq
          exact .inl (met_visit_self _ _)
        · exact .inr (List.mem_append_right _ hmem)
    · exact .inr (List.mem_append_left _ hstep)
  funded hvisit := by
    rcases visits_visit hvisit with hold | ⟨rfl, rfl, rfl⟩
    · exact h.funded hold
    · exact h.funded_pending List.mem_cons_self
  funded_pending {w left} hmem := by
    have hsize : (tour.visit v hops).visits.size = tour.visits.size + 1 := by simp [Tour.visit]
    rw [hsize]
    rcases List.mem_append.1 hmem with hstep | hmem
    · have hhops : hops ≤ left + 1 := Heap.hops_le_of_mem_successors hstep
      have hbudget := h.funded_pending List.mem_cons_self
      omega
    · have hbudget := h.funded_pending (List.mem_cons_of_mem _ hmem)
      omega

theorem Progress.skip {heap : Heap} {origin : Value} {budget : Nat} (v : Value) (hops : Nat)
    (pending : List (Value × Nat)) (tour : Tour) (hold : tour.numbers[v.id]? ≠ some none)
    (h : Progress heap order origin budget ((v, hops) :: pending) tour) :
    Progress heap order origin budget pending tour where
  numbered := h.numbered
  started := by
    rcases h.started with hmet | hmem
    · exact .inl hmet
    · rcases List.mem_cons.1 hmem with heq | hmem
      · obtain ⟨rfl, rfl⟩ := Prod.mk.inj heq
        exact .inl hold
      · exact .inr hmem
  reached := h.reached
  reached_pending hmem := h.reached_pending (List.mem_cons_of_mem _ hmem)
  covered hvisit hstep := by
    rcases h.covered hvisit hstep with hmet | hmem
    · exact .inl hmet
    · rcases List.mem_cons.1 hmem with heq | hmem
      · obtain ⟨rfl, rfl⟩ := Prod.mk.inj heq
        exact .inl hold
      · exact .inr hmem
  funded := h.funded
  funded_pending hmem := h.funded_pending (List.mem_cons_of_mem _ hmem)

end Tour

/-- The invariant at the end of a tour. -/
theorem Heap.tour_progress (heap : Heap) (order : HashOrder) (v : Value) (hops : Nat) :
    Tour.Progress heap order v hops [] (heap.tour order v hops) :=
  Heap.tourFrom_keeps (I := Tour.Progress heap order v hops) Tour.Progress.visit Tour.Progress.skip
    (Tour.progress_start heap order v hops)

end DynamicValues
