import DynamicValues.Pattern.Machine
import DynamicValues.Proofs.Pattern.Framed
import DynamicValues.Proofs.Text.Places

/-!
# What paths keep

A property of the paths at a place is kept by a program if it holds of a path that begins, and if a
path that has it takes it along through each instruction (`Program.Keeps`). Following the paths at a
place keeps such a property, reading a character does, and so does a run: **what it accepts are the
slots of a path that has the property and is at an accepting instruction** (`Program.Keeps.runFrom`).
-/

set_option autoImplicit false

namespace DynamicValues.Pattern

/-- A property of paths by their place is kept on the way through a program, at the places of a text
from `origin` on. -/
structure Program.Keeps (program : Program) (text : String) (origin : Nat)
    (keep : Nat → Thread → Prop) : Prop where
  start {place : Nat} : IsPlace text place → origin ≤ place →
    keep place ⟨program.start, Array.replicate (2 * program.groups) none⟩
  /-- Any other instruction than a note leaves the slots as they are. -/
  go {place place' next : Nat} {thread : Thread} {instruction : Instruction} : keep place thread →
    program.code[thread.pc]? = some instruction → (∀ slot next, instruction ≠ .note slot next) →
    next ∈ instruction.following → place ≤ place' → keep place' ⟨next, thread.slots⟩
  note {place slot next : Nat} {thread : Thread} : keep place thread → IsPlace text place →
    origin ≤ place → program.code[thread.pc]? = some (.note slot next) →
    keep place ⟨next, thread.slots.setIfInBounds slot (some place)⟩

/-- What was accepted so far are the slots of a path with the property that accepted. -/
def Program.Accepted (program : Program) (text : String) (keep : Nat → Thread → Prop)
    (best : Option Slots) : Prop :=
  ∀ slots ∈ best, ∃ place thread, IsPlace text place ∧ keep place thread ∧
    program.code[thread.pc]? = some .accept ∧ thread.slots = slots

/-- What a place yields: matches that end there, and paths at the place after its character `c`. -/
structure Advance.Kept (program : Program) (text : String) (keep : Nat → Thread → Prop)
    (place : Nat) (c : Option Char) (result : Advance) : Prop where
  accepted : program.Accepted text keep result.accepted
  next : ∀ char, c = some char → ∀ thread ∈ result.next.threads,
    keep (place + char.utf8Size) thread

section Run

variable {program : Program} {text : String} {origin place : Nat} {keep : Nat → Thread → Prop}

theorem Program.accepted_none : program.Accepted text keep none := by
  intro slots hslots
  exact absurd hslots (by simp)

theorem Program.Accepted.or {first second : Option Slots} (h : program.Accepted text keep first)
    (h' : program.Accepted text keep second) : program.Accepted text keep (first.or second) := by
  intro slots hslots
  rcases Option.or_eq_some_iff.1 hslots with hfirst | ⟨-, hsecond⟩
  · exact h slots hfirst
  · exact h' slots hsecond

theorem Program.accepted_of_accept {thread : Thread} (hplace : IsPlace text place)
    (hkeep : keep place thread) (hget : program.code[thread.pc]? = some .accept) :
    program.Accepted text keep (some thread.slots) := by
  intro slots hslots
  exact ⟨place, thread, hplace, hkeep, hget, Option.mem_some.1 hslots⟩

namespace Program.Keeps

theorem follow (keeps : program.Keeps text origin keep) (hplace : IsPlace text place)
    (horigin : origin ≤ place) {before after : Option Char} {front : Front} {stack : List Thread}
    (hfront : ∀ thread ∈ front.threads, keep place thread)
    (hstack : ∀ thread ∈ stack, keep place thread) :
    ∀ thread ∈ (front.follow program.code place before after stack).threads,
      keep place thread := by
  -- A path that reads or accepts stays in the front; any other one goes on at the same place.
  fun_induction Front.follow front program.code place before after stack with
  | case1 front => exact hfront
  | case2 front thread stack room hroom hmark entered first second hget ih =>
    obtain ⟨hthread, hrest⟩ := List.forall_mem_cons.1 hstack
    refine ih hfront (List.forall_mem_cons.2 ⟨?_, List.forall_mem_cons.2 ⟨?_, hrest⟩⟩)
    · exact keeps.go hthread hget (by simp) (by simp [Instruction.following]) (Nat.le_refl _)
    · exact keeps.go hthread hget (by simp) (by simp [Instruction.following]) (Nat.le_refl _)
  | case3 front thread stack room hroom hmark entered slot next hget ih =>
    obtain ⟨hthread, hrest⟩ := List.forall_mem_cons.1 hstack
    exact ih hfront (List.forall_mem_cons.2 ⟨keeps.note hthread hplace horigin hget, hrest⟩)
  | case4 front thread stack room hroom hmark entered test next hget ih =>
    obtain ⟨hthread, hrest⟩ := List.forall_mem_cons.1 hstack
    refine ih hfront ?_
    split
    · refine List.forall_mem_cons.2 ⟨?_, hrest⟩
      exact keeps.go hthread hget (by simp) (by simp [Instruction.following]) (Nat.le_refl _)
    · exact hrest
  | case5 front thread stack room hroom hmark entered set next hget ih =>
    obtain ⟨hthread, hrest⟩ := List.forall_mem_cons.1 hstack
    exact ih (Array.forall_mem_push.2 ⟨hthread, hfront⟩) hrest
  | case6 front thread stack room hroom hmark entered hget ih =>
    obtain ⟨hthread, hrest⟩ := List.forall_mem_cons.1 hstack
    exact ih (Array.forall_mem_push.2 ⟨hthread, hfront⟩) hrest
  | case7 front thread stack room hroom hmark entered hget ih =>
    exact ih hfront (List.forall_mem_cons.1 hstack).2
  | case8 front thread stack hskip ih => exact ih hfront (List.forall_mem_cons.1 hstack).2

theorem advance (keeps : program.Keeps text origin keep) (hplace : IsPlace text place)
    (horigin : origin ≤ place) {all : Bool} {c afterNext : Option Char}
    (hc : c = charAt? text place) {threads : List Thread} {result : Advance}
    (hthreads : ∀ thread ∈ threads, keep place thread)
    (hresult : result.Kept program text keep place c) :
    (advance program.code all place c afterNext threads result).Kept program text keep place c := by
  fun_induction Pattern.advance program.code all place c afterNext threads result with
  | case1 result => exact hresult
  | case2 thread threads result hget accepting hall ih =>
    obtain ⟨hthread, hrest⟩ := List.forall_mem_cons.1 hthreads
    exact ih hrest ⟨hresult.accepted.or (accepted_of_accept hplace hthread hget), hresult.next⟩
  | case3 thread threads result hget accepting hall =>
    obtain ⟨hthread, -⟩ := List.forall_mem_cons.1 hthreads
    exact ⟨hresult.accepted.or (accepted_of_accept hplace hthread hget), hresult.next⟩
  | case4 thread threads result set next hget char hchar hin front ih =>
    obtain ⟨hthread, hrest⟩ := List.forall_mem_cons.1 hthreads
    subst hchar
    refine ih hrest ⟨hresult.accepted, fun char' hchar' => ?_⟩
    obtain rfl := Option.some.inj hchar'
    have hstack : ∀ other ∈ [(⟨next, thread.slots⟩ : Thread)],
        keep (place + char.utf8Size) other := by
      intro other hother
      obtain rfl := List.mem_singleton.1 hother
      exact keeps.go hthread hget (by simp) (by simp [Instruction.following])
        (Nat.le_add_right _ _)
    exact keeps.follow (hplace.next hc.symm) (Nat.le_trans horigin (Nat.le_add_right _ _))
      (hresult.next char rfl) hstack
  | case5 thread threads result set next hget char hchar hout ih =>
    subst hchar
    exact ih (List.forall_mem_cons.1 hthreads).2 hresult
  | case6 thread threads result set next hget hnone ih =>
    subst hnone
    exact ih (List.forall_mem_cons.1 hthreads).2 hresult
  | case7 thread threads result haccept hread ih =>
    exact ih (List.forall_mem_cons.1 hthreads).2 hresult

/-- The paths at a place, with one that begins there or without. -/
theorem starts (keeps : program.Keeps text origin keep) (hplace : IsPlace text place)
    (horigin : origin ≤ place) {front : Front} (starts : Bool) (before after : Option Char)
    (hfront : ∀ thread ∈ front.threads, keep place thread) :
    ∀ thread ∈ (if starts then front.follow program.code place before after
        [⟨program.start, Array.replicate (2 * program.groups) none⟩] else front).threads,
      keep place thread := by
  cases starts with
  | false => exact hfront
  | true =>
    refine keeps.follow hplace horigin hfront fun thread hthread => ?_
    obtain rfl := List.mem_singleton.1 hthread
    exact keeps.start hplace horigin

/-- **Whatever a run accepts** are the slots of a path with the property. -/
theorem runFrom (keeps : program.Keeps text origin keep) {mode : Mode} {isFirst : Bool}
    {front : Front} {best : Option Slots} (hplace : IsPlace text place) (horigin : origin ≤ place)
    (hfront : ∀ thread ∈ front.threads, keep place thread)
    (hbest : program.Accepted text keep best) :
    program.Accepted text keep (program.runFrom text mode isFirst place front best) := by
  fun_induction Program.runFrom program text mode isFirst place front best with
  | case1 isFirst place front best before current starts followed hend => exact hbest
  | case2 isFirst place front best before current starts followed hgoes hnone =>
    have hfollowed := keeps.starts hplace horigin starts before current hfront
    have hlast : (Pattern.advance program.code (mode == .longest) place none none
        followed.threads.toList ⟨none, .fresh 0⟩).Kept program text keep place none :=
      keeps.advance hplace horigin hnone.symm
        (fun thread hthread => hfollowed thread (Array.mem_toList_iff.1 hthread))
        ⟨accepted_none, fun char hchar => absurd hchar (by simp)⟩
    exact hlast.accepted.or hbest
  | case3 isFirst place front best before current starts followed hgoes c hc afterNext result ih =>
    have hfollowed := keeps.starts hplace horigin starts before current hfront
    have hresult : result.Kept program text keep place (some c) :=
      keeps.advance hplace horigin hc.symm
        (fun thread hthread => hfollowed thread (Array.mem_toList_iff.1 hthread))
        ⟨accepted_none, fun char _ thread hthread => absurd hthread (by simp [Front.fresh])⟩
    exact ih (hplace.next hc) (Nat.le_trans horigin (Nat.le_add_right _ _)) (hresult.next c rfl)
      (hresult.accepted.or hbest)

/-- What a search accepts, which starts with no path at all. -/
theorem run (keeps : program.Keeps text origin keep) (hplace : IsPlace text place)
    (horigin : origin ≤ place) (mode : Mode) :
    program.Accepted text keep
      (program.runFrom text mode true place (.fresh program.code.size) none) :=
  keeps.runFrom hplace horigin (fun thread hthread => absurd hthread (by simp [Front.fresh]))
    accepted_none

end Program.Keeps

end Run

end DynamicValues.Pattern
