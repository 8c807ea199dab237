import DynamicValues.Proofs.Heap.DeepCopy
import Mathlib.Data.Set.Card

/-!
# Copying as a recursion

A copy is made by a recursion: a body that has its copy already is left, and any other one is entered,
numbered, and what it leads on to is copied before what comes after it. The number of hops does not
bound this, for arrays and hashes use none up. `Heap.CopyCalls` is the recursion as a relation, with the
bodies that are entered and the number of calls; a derivation is the tree of the calls, and so a run
that ends.

Numbering a body before going on from it leaves fewer bodies without a number to all calls that follow.
So **every copy ends** (`Heap.exists_copyCalls`), with the tour that places the copies
(`Heap.CopyCalls.tour_eq`), and `Heap.clone_enters_once` says what that costs: a body is entered once at
most and only where it is reached, each one that is entered gets one copy, and there are no more calls
than handles in these bodies and one.
-/

set_option autoImplicit false

namespace DynamicValues

namespace Heap

/-! ## The recursion -/

/-- Copying a list of values in turn, the first tour being what was copied before: which bodies are
entered, how many calls there are, one for each value that comes up, and the tour at the end. -/
inductive CopyCalls (heap : Heap) (order : HashOrder) :
    List (Value × Nat) → Tour → List Value → Nat → Tour → Prop where
  | done (tour : Tour) : CopyCalls heap order [] tour [] 0 tour
  /-- A body that is met already. -/
  | leave {v : Value} {hops calls : Nat} {pending : List (Value × Nat)} {tour after : Tour}
      {entered : List Value} (hmet : tour.Met v)
      (others : CopyCalls heap order pending tour entered calls after) :
      CopyCalls heap order ((v, hops) :: pending) tour entered (calls + 1) after
  /-- A new body: it is numbered, and then what it leads on to is copied. -/
  | enter {v : Value} {hops inside calls : Nat} {pending : List (Value × Nat)}
      {tour between after : Tour} {within entered : List Value} (hnew : ¬ tour.Met v)
      (parts : CopyCalls heap order (heap.successors order v hops) (tour.visit v hops) within inside
        between)
      (others : CopyCalls heap order pending between entered calls after) :
      CopyCalls heap order ((v, hops) :: pending) tour (v :: (within ++ entered))
        (inside + calls + 1) after

namespace CopyCalls

variable {heap : Heap} {order : HashOrder} {pending : List (Value × Nat)} {tour after after' : Tour}
  {entered entered' : List Value} {calls calls' : Nat}

/-- Numbers are only given. -/
theorem unvisited_le (h : heap.CopyCalls order pending tour entered calls after) :
    after.unvisited ≤ tour.unvisited := by
  induction h with
  | done tour => exact Nat.le_refl _
  | leave _ _ ih => exact ih
  | @enter v hops _ _ _ tour _ _ _ _ hnew _ _ ihParts ihOthers =>
    have hless : (tour.visit v hops).unvisited < tour.unvisited :=
      Tour.unvisited_visit_lt (not_not.1 hnew)
    exact Nat.le_trans ihOthers (Nat.le_trans ihParts hless.le)

/-- **The loop over pending bodies is this recursion**, whatever comes behind. -/
theorem tourFrom_append (h : heap.CopyCalls order pending tour entered calls after)
    (behind : List (Value × Nat)) :
    heap.tourFrom order (pending ++ behind) tour = heap.tourFrom order behind after := by
  induction h generalizing behind with
  | done tour => rfl
  | leave hmet _ ih =>
    rw [List.cons_append, tourFrom]
    split
    · next hnew => exact absurd hnew hmet
    · exact ih behind
  | enter hnew _ _ ihParts ihOthers =>
    rw [List.cons_append, tourFrom]
    split
    · rw [← List.append_assoc, ← ihOthers, ← ihParts]
      simp only [List.append_assoc]
    · next hmet => exact absurd (not_not.1 hnew) hmet

/-- What is entered is visited, in this order. -/
theorem visits_eq (h : heap.CopyCalls order pending tour entered calls after) :
    after.visits.toList.map Prod.fst = tour.visits.toList.map Prod.fst ++ entered := by
  induction h with
  | done tour => simp
  | leave _ _ ih => exact ih
  | enter _ _ _ ihParts ihOthers =>
    rw [ihOthers, ihParts]
    simp [Tour.visit]

/-- The recursion has no choice. -/
theorem unique (h : heap.CopyCalls order pending tour entered calls after)
    (h' : heap.CopyCalls order pending tour entered' calls' after') :
    entered = entered' ∧ calls = calls' ∧ after = after' := by
  induction h generalizing entered' calls' after' with
  | done tour =>
    cases h'
    exact ⟨rfl, rfl, rfl⟩
  | leave hmet _ ih =>
    cases h' with
    | leave _ others' =>
      obtain ⟨rfl, rfl, rfl⟩ := ih others'
      exact ⟨rfl, rfl, rfl⟩
    | enter hnew' => exact absurd hmet hnew'
  | enter hnew _ _ ihParts ihOthers =>
    cases h' with
    | leave hmet' => exact absurd hmet' hnew
    | enter _ parts' others' =>
      obtain ⟨rfl, rfl, rfl⟩ := ihParts parts'
      obtain ⟨rfl, rfl, rfl⟩ := ihOthers others'
      exact ⟨rfl, rfl, rfl⟩

end CopyCalls

theorem length_successors_le (heap : Heap) (order : HashOrder) (v : Value) (hops : Nat) :
    (heap.successors order v hops).length ≤ (heap.content v).parts.length := by
  unfold successors
  split
  · next h => simp [h, Content.parts, Datum.target?]
  · next h => simp [h, Content.parts]
  · next h => simp [h, Content.parts, (order.perm v _).length_eq]
  · exact Nat.zero_le _

/-- A call is for a value given or for a handle in a body that was entered. -/
theorem CopyCalls.calls_le {heap : Heap} {order : HashOrder} {pending : List (Value × Nat)}
    {tour after : Tour} {entered : List Value} {calls : Nat}
    (h : heap.CopyCalls order pending tour entered calls after) :
    calls ≤ pending.length + (entered.map fun w => (heap.content w).parts.length).sum := by
  induction h with
  | done tour => exact Nat.zero_le _
  | leave _ _ ih =>
    rw [List.length_cons]
    omega
  | @enter v hops _ _ _ _ _ _ _ _ _ _ _ ihParts ihOthers =>
    have hsuccessors := heap.length_successors_le order v hops
    rw [List.length_cons, List.map_cons, List.sum_cons, List.map_append, List.sum_append]
    omega

/-! ## The recursion ends -/

/-- **Every copy ends.** The bodies without a number become fewer with each one that is entered, and a
call that enters none leaves fewer values to copy. -/
theorem exists_copyCalls (heap : Heap) (order : HashOrder) (pending : List (Value × Nat))
    (tour : Tour) :
    ∃ entered calls after, heap.CopyCalls order pending tour entered calls after := by
  match pending with
  | [] => exact ⟨_, _, _, .done tour⟩
  | (v, hops) :: pending =>
    by_cases hmet : tour.Met v
    · obtain ⟨entered, calls, after, others⟩ := heap.exists_copyCalls order pending tour
      exact ⟨_, _, _, .leave hmet others⟩
    · have hless : (tour.visit v hops).unvisited < tour.unvisited :=
        Tour.unvisited_visit_lt (not_not.1 hmet)
      obtain ⟨within, inside, between, parts⟩ :=
        heap.exists_copyCalls order (heap.successors order v hops) (tour.visit v hops)
      have hrest := parts.unvisited_le
      obtain ⟨entered, calls, after, others⟩ := heap.exists_copyCalls order pending between
      exact ⟨_, _, _, .enter hmet parts others⟩
termination_by (tour.unvisited, pending.length)
decreasing_by
  · exact Prod.Lex.right _ (by simp)
  · exact Prod.Lex.left _ _ hless
  · exact Prod.Lex.left _ _ (by omega)

/-- The recursion for one value ends with its tour. -/
theorem CopyCalls.tour_eq {heap : Heap} {order : HashOrder} {v : Value} {hops calls : Nat}
    {entered : List Value} {after : Tour}
    (h : heap.CopyCalls order [(v, hops)] (.start heap.size) entered calls after) :
    after = heap.tour order v hops := by
  have hfrom := h.tourFrom_append []
  rw [List.append_nil, tourFrom] at hfrom
  exact hfrom.symm

/-! ## What is entered -/

section Entered

variable {heap : Heap} {order : HashOrder} {v : Value} {hops calls : Nat} {entered : List Value}
  {after : Tour} (h : heap.CopyCalls order [(v, hops)] (.start heap.size) entered calls after)

include h

/-- The bodies entered are those visited. -/
theorem CopyCalls.entered_eq : entered = (heap.tour order v hops).visits.toList.map Prod.fst := by
  rw [← h.tour_eq, h.visits_eq]
  rfl

/-- Where a body was entered, its number stands. -/
theorem CopyCalls.number_of_getElem? {n : Nat} {w : Value} (hw : entered[n]? = some w) :
    (heap.tour order v hops).numbers[w.id]? = some (some n) := by
  rw [h.entered_eq, List.getElem?_map, Option.map_eq_some_iff] at hw
  obtain ⟨⟨w, left⟩, hvisit, rfl⟩ := hw
  rw [Array.getElem?_toList] at hvisit
  exact ((heap.tour_progress order v hops).numbered.number_iff w n).2 ⟨left, hvisit⟩

theorem CopyCalls.entered_nodup : entered.Nodup := by
  rw [List.nodup_iff_getElem?_ne_getElem?]
  intro m n hmn hn hsame
  have hw : entered[n]? = some entered[n] := List.getElem?_eq_getElem hn
  have hnumber := h.number_of_getElem? hw
  rw [h.number_of_getElem? (hsame.trans hw)] at hnumber
  obtain rfl : m = n := by simpa using hnumber
  exact Nat.lt_irrefl m hmn

theorem CopyCalls.mem_entered {w : Value} (hw : w ∈ entered) :
    w.id < heap.size ∧ heap.Reaches v w := by
  have progress := heap.tour_progress order v hops
  obtain ⟨n, hn⟩ := List.getElem?_of_mem hw
  have hnumber := h.number_of_getElem? hn
  obtain ⟨left, hvisit⟩ := (progress.numbered.number_iff w n).1 hnumber
  have hlt : w.id < (heap.tour order v hops).numbers.size := (Array.getElem?_eq_some_iff.1 hnumber).1
  exact ⟨progress.numbered.size_numbers ▸ hlt, progress.reached hvisit⟩

/-- One body is made for each one that is entered. -/
theorem CopyCalls.size_clone_eq :
    (heap.clone order v hops).2.size = heap.size + entered.length := by
  rw [size_clone, h.entered_eq]
  simp

end Entered

/-- Bodies told apart are no more than a set has that they are all in. -/
theorem length_le_ncard {heap : Heap} {R : Value → Prop} {list : List Value} (distinct : list.Nodup)
    (hmem : ∀ w ∈ list, w.id < heap.size ∧ R w) :
    list.length ≤ {w : Value | w.id < heap.size ∧ R w}.ncard := by
  have hfinite : {w : Value | w.id < heap.size ∧ R w}.Finite := by
    refine Set.Finite.subset ((Set.finite_lt_nat heap.size).image Value.mk) ?_
    rintro w ⟨hw, -⟩
    exact ⟨w.id, hw, rfl⟩
  calc list.length
    _ = list.toFinset.card := (List.toFinset_card_of_nodup distinct).symm
    _ = (list.toFinset : Set Value).ncard := (Set.ncard_coe_finset _).symm
    _ ≤ {w : Value | w.id < heap.size ∧ R w}.ncard := by
      refine Set.ncard_le_ncard ?_ hfinite
      intro w hw
      exact hmem w (List.mem_toFinset.1 hw)

/-- **A copy ends, with one new body for each one entered, and no body entered twice.** On every heap,
cyclic or not, in any order of the cells of hashes and with any number of hops, the recursion has
exactly one course. It enters bodies
that are reached, each at most once, so a copy makes no more bodies than are reached. -/
theorem clone_enters_once (heap : Heap) (order : HashOrder) (v : Value) (hops : Nat) :
    ∃ entered calls,
      heap.CopyCalls order [(v, hops)] (.start heap.size) entered calls (heap.tour order v hops) ∧
      (∀ entered' calls' after,
        heap.CopyCalls order [(v, hops)] (.start heap.size) entered' calls' after →
          entered' = entered ∧ calls' = calls ∧ after = heap.tour order v hops) ∧
      entered.Nodup ∧
      (∀ w ∈ entered, w.id < heap.size ∧ heap.Reaches v w) ∧
      (heap.clone order v hops).2.size = heap.size + entered.length ∧
      entered.length ≤ {w | w.id < heap.size ∧ heap.Reaches v w}.ncard ∧
      calls ≤ 1 + (entered.map fun w => (heap.content w).parts.length).sum := by
  obtain ⟨entered, calls, after, hcalls⟩ :=
    heap.exists_copyCalls order [(v, hops)] (.start heap.size)
  obtain rfl : after = heap.tour order v hops := hcalls.tour_eq
  exact ⟨entered, calls, hcalls, fun _ _ _ hcalls' => hcalls'.unique hcalls, hcalls.entered_nodup,
    fun w => hcalls.mem_entered, hcalls.size_clone_eq,
    length_le_ncard hcalls.entered_nodup fun w => hcalls.mem_entered, hcalls.calls_le⟩

end Heap

end DynamicValues
