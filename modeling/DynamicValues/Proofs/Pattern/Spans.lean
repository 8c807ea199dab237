import DynamicValues.Pattern.Lockstep
import DynamicValues.Proofs.Pattern.Lawful
import DynamicValues.Proofs.Pattern.Runs

/-!
# Where matches are

A search that runs a program from a place of a text finds a match at or after it, which ends at or
after it begins, between characters both (`Searcher.sound_ofProgram`).

A path that has left the first instruction of a program knows where it began, and one that is about
to accept has just noted where it is (`Thread.Tracked`). This is kept on the way through the program
(`Program.Framed.keeps_tracked`), so what accepts at last is a match.
-/

set_option autoImplicit false

namespace DynamicValues

namespace Pattern

/-! ## Paths -/

/-- The slots of a path that began at `first`, which is not before `origin`. -/
structure Slots.Began (text : String) (origin first : Nat) (slots : Slots) : Prop where
  noted : slots[0]? = some (some first)
  origin_le : origin ≤ first
  isPlace : IsPlace text first

/-- The slots of a match from `first` to `last`. -/
structure Slots.Whole (text : String) (origin first last : Nat) (slots : Slots) : Prop
    extends slots.Began text origin first where
  noted_last : slots[1]? = some (some last)
  first_le : first ≤ last
  isPlace_last : IsPlace text last

/-- A path at a place knows where it began, unless it is about to begin, and where it ended, if it
is about to accept. -/
structure Thread.Tracked (program : Program) (text : String) (origin place : Nat)
    (thread : Thread) : Prop where
  size : 2 ≤ thread.slots.size
  began : thread.pc ≠ program.start → ∃ first ≤ place, thread.slots.Began text origin first
  ended : thread.pc = 0 → thread.slots[1]? = some (some place)

section Run

variable {program : Program} {text : String} {origin place : Nat}

variable {thread : Thread}

/-- **A program keeps track** of where its paths began and where they end. -/
theorem Program.Framed.keeps_tracked (framed : program.Framed) :
    program.Keeps text origin fun place thread => thread.Tracked program text origin place where
  start hplace horigin := by
    refine ⟨?_, fun h => absurd rfl h, fun h => absurd h framed.start_ne⟩
    have := framed.groups
    simp only [Array.size_replicate]
    omega
  go h hget hnote hnext hle := by
    refine ⟨h.size, fun _ => ?_, fun hzero => ?_⟩
    · obtain ⟨first, hfirst, hbegan⟩ := h.began (framed.ne_start hget (hnote 0))
      exact ⟨first, Nat.le_trans hfirst hle, hbegan⟩
    · exact absurd ((framed.following hget hnext).2 hzero) (hnote 1 0)
  note {place slot next thread} h hplace horigin hget := by
    have hsize := h.size
    refine ⟨by rwa [Array.size_setIfInBounds], fun _ => ?_, fun hzero => ?_⟩
    · -- Slot 0 is noted here and now; any other note comes after the start.
      by_cases hslot : slot = 0
      · subst hslot
        refine ⟨place, Nat.le_refl _, ?_, horigin, hplace⟩
        exact Array.getElem?_setIfInBounds_self_of_lt (by omega)
      · obtain ⟨first, hfirst, hbegan⟩ := h.began (framed.ne_start hget (by simp [hslot]))
        refine ⟨first, hfirst, ?_, hbegan.origin_le, hbegan.isPlace⟩
        rw [Array.getElem?_setIfInBounds_ne hslot]
        exact hbegan.noted
    · have heq := (framed.following hget (by simp [Instruction.following])).2 hzero
      obtain rfl := (Instruction.note.inj heq).1
      exact Array.getElem?_setIfInBounds_self_of_lt (by omega)

/-- A path that accepts has matched from where it began up to where it is. -/
theorem Thread.Tracked.whole (framed : program.Framed)
    (h : thread.Tracked program text origin place) (hplace : IsPlace text place)
    (hget : program.code[thread.pc]? = some .accept) :
    ∃ first, thread.slots.Whole text origin first place := by
  have hpc : thread.pc = 0 := framed.accept hget
  obtain ⟨first, hfirst, hbegan⟩ := h.began (hpc ▸ framed.start_ne.symm)
  exact ⟨first, hbegan, h.ended hpc, hfirst, hplace⟩

end Run

/-! ## Matches -/

theorem Slots.Whole.groups {text : String} {origin first last : Nat} {slots : Slots}
    (h : slots.Whole text origin first last) {count : Nat} (hcount : 0 < count) :
    (groupsOfSlots count slots).Whole text origin first last where
  head := by
    obtain ⟨count, rfl⟩ := Nat.exists_eq_succ_of_ne_zero (Nat.ne_of_gt hcount)
    simp [groupsOfSlots, List.range_succ_eq_map, h.noted, h.noted_last]
  origin_le := h.origin_le
  first_le := h.first_le
  isPlace := h.isPlace
  isPlace_last := h.isPlace_last

namespace Program

variable {program : Program} {text : String} {place : Nat} {groups : ByteGroups}

theorem whole_of_runFrom (framed : program.Framed) (hplace : IsPlace text place) {mode : Mode}
    (h : (program.runFrom text mode true place (.fresh program.code.size) none).map
      (groupsOfSlots program.groups) = some groups) :
    ∃ first last, groups.Whole text place first last := by
  obtain ⟨slots, hslots, rfl⟩ := Option.map_eq_some_iff.1 h
  obtain ⟨last, thread, hlast, htracked, hget, rfl⟩ :=
    framed.keeps_tracked.run hplace (Nat.le_refl place) mode slots hslots
  obtain ⟨first, hwhole⟩ := htracked.whole framed hlast hget
  exact ⟨first, last, hwhole.groups framed.groups⟩

theorem length_of_runFrom {mode : Mode}
    (h : (program.runFrom text mode true place (.fresh program.code.size) none).map
      (groupsOfSlots program.groups) = some groups) : groups.length = program.groups := by
  obtain ⟨slots, -, rfl⟩ := Option.map_eq_some_iff.1 h
  simp [groupsOfSlots]

end Program

end Pattern

/-! ## The searcher of a program -/

namespace Searcher

variable {program : Pattern.Program}

theorem longest_of_nonemptyAt {text : String} {place : Nat} {groups : Pattern.ByteGroups}
    (h : (ofProgram program).nonemptyAt text place = some groups) :
    program.longest text place = some groups ∧
      ∃ first last, groups.head? = some (some (first, last)) ∧ first < last := by
  obtain ⟨_, hprogram, hlongest, hspan⟩ := nonemptyAt_eq_some_iff.1 h
  obtain rfl := Option.some.inj hprogram
  exact ⟨hlongest, hspan⟩

/-- **A program that keeps track of its paths is searched soundly.** -/
theorem sound_ofProgram (framed : program.Framed) : (ofProgram program).Sound where
  capturesAt hplace h := Pattern.Program.whole_of_runFrom framed hplace h
  nonemptyAt hplace h := by
    obtain ⟨hlongest, first, last, hhead, hlt⟩ := longest_of_nonemptyAt h
    obtain ⟨first', last', hwhole⟩ := Pattern.Program.whole_of_runFrom framed hplace hlongest
    obtain ⟨rfl, rfl⟩ : first = first' ∧ last = last' := by
      simpa [hhead] using hwhole.head
    exact ⟨first, last, hlt, hwhole⟩

theorem counts_ofProgram : (ofProgram program).Counts program.groups where
  capturesAt _ h := Pattern.Program.length_of_runFrom h
  nonemptyAt _ h := Pattern.Program.length_of_runFrom (longest_of_nonemptyAt h).1

end Searcher

end DynamicValues
