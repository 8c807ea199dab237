import DynamicValues.Pattern.Program
import Mathlib.Tactic.ByContra

/-!
# The code of a pattern

The code of a tree is put in front of code that is there already: it extends that code by
instructions that stay within it (`Code.Extends`, `Node.emit_extending`). None of them accepts, and
none goes on to the accepting instruction, which is number 0.

So the program of a pattern is left at its first instruction only by noting the place in the slot
for the begin of the match, and it comes to accept only by noting the place in the slot for the end
(`Program.Framed`). That is all that has to be known of a program to say where its matches are.
-/

set_option autoImplicit false

namespace DynamicValues.Pattern

/-! ## The code of a tree -/

/-- The instructions that may come next. -/
def Instruction.following : Instruction → List Nat
  | .read _ next => [next]
  | .branch first second => [first, second]
  | .note _ next => [next]
  | .assert _ next => [next]
  | .accept => []

/-- An instruction that goes on within `size` instructions and to another one than the first. -/
structure Instruction.Inner (size : Nat) (instruction : Instruction) : Prop where
  not_accept : instruction ≠ .accept
  following : ∀ next ∈ instruction.following, 0 < next ∧ next < size

/-- The same code with inner instructions behind it. -/
structure Code.Extends (code code' : Code) : Prop where
  size_le : code.size ≤ code'.size
  kept : ∀ pc < code.size, code'[pc]? = code[pc]?
  inner : ∀ pc instruction, code.size ≤ pc → code'[pc]? = some instruction →
    instruction.Inner code'.size

theorem Instruction.Inner.mono {size size' : Nat} {instruction : Instruction}
    (h : instruction.Inner size) (hle : size ≤ size') : instruction.Inner size' where
  not_accept := h.not_accept
  following next hnext :=
    ⟨(h.following next hnext).1, Nat.lt_of_lt_of_le (h.following next hnext).2 hle⟩

namespace Code.Extends

variable {code code' code'' : Code}

theorem refl (code : Code) : Extends code code where
  size_le := Nat.le_refl _
  kept _ _ := rfl
  inner pc instruction hpc hget := by
    rw [Array.getElem?_eq_none hpc] at hget
    exact absurd hget (by simp)

theorem trans (h : Extends code code') (h' : Extends code' code'') : Extends code code'' where
  size_le := Nat.le_trans h.size_le h'.size_le
  kept pc hpc := (h'.kept pc (Nat.lt_of_lt_of_le hpc h.size_le)).trans (h.kept pc hpc)
  inner pc instruction hpc hget := by
    by_cases hin : pc < code'.size
    · rw [h'.kept pc hin] at hget
      exact (h.inner pc instruction hpc hget).mono h'.size_le
    · exact h'.inner pc instruction (Nat.le_of_not_lt hin) hget

theorem push {instruction : Instruction} (h : Extends code code')
    (hinner : instruction.Inner code'.size) : Extends code (code'.push instruction) := by
  refine h.trans ⟨by simp, fun pc hpc => ?_, fun pc other hpc hget => ?_⟩
  · rw [Array.getElem?_push_lt hpc, Array.getElem?_eq_getElem hpc]
  · have hlt : pc < (code'.push instruction).size := by
      by_contra hout
      rw [Array.getElem?_eq_none (Nat.le_of_not_lt hout)] at hget
      exact absurd hget (by simp)
    obtain rfl : pc = code'.size := by
      rw [Array.size_push] at hlt
      omega
    obtain rfl : instruction = other := by simpa using hget
    exact hinner.mono (by simp)

end Code.Extends

/-- An emitter that extends the code and answers where to begin in it. -/
def Emitter.Extending (emit : Emitter) : Prop :=
  ∀ (next : Nat) (code : Code), 0 < next → next < code.size →
    Code.Extends code (emit next code).2 ∧
      0 < (emit next code).1 ∧ (emit next code).1 < (emit next code).2.size

theorem inner_loopBranch {greedy : Bool} {body out size : Nat} (hbody : 0 < body ∧ body < size)
    (hout : 0 < out ∧ out < size) : (loopBranch greedy body out).Inner size := by
  cases greedy with
  | true =>
    refine ⟨by simp [loopBranch], ?_⟩
    simpa [loopBranch, Instruction.following] using ⟨hbody, hout⟩
  | false =>
    refine ⟨by simp [loopBranch], ?_⟩
    simpa [loopBranch, Instruction.following] using ⟨hout, hbody⟩

namespace Emitter.Extending

variable {emit : Emitter}

theorem times (h : Emitter.Extending emit) (count : Nat) :
    Emitter.Extending (emitTimes emit count) := by
  induction count with
  | zero =>
    intro next code hpos hlt
    exact ⟨.refl code, hpos, hlt⟩
  | succ count ih =>
    intro next code hpos hlt
    obtain ⟨hext, hpos', hlt'⟩ := h next code hpos hlt
    obtain ⟨hrest, hstart⟩ := ih _ _ hpos' hlt'
    exact ⟨hext.trans hrest, hstart⟩

theorem optional (h : Emitter.Extending emit) (greedy : Bool) {out : Nat} (hout : 0 < out)
    (count : Nat) {next : Nat} {code : Code} (hpos : 0 < next) (hlt : next < code.size)
    (hlt' : out < code.size) :
    Code.Extends code (emitOptional emit greedy out count next code).2 ∧
      0 < (emitOptional emit greedy out count next code).1 ∧
      (emitOptional emit greedy out count next code).1 <
        (emitOptional emit greedy out count next code).2.size := by
  induction count generalizing next code with
  | zero => exact ⟨.refl code, hpos, hlt⟩
  | succ count ih =>
    obtain ⟨hext, hstart⟩ := h next code hpos hlt
    have houtlt : out < (emit next code).2.size := Nat.lt_of_lt_of_le hlt' hext.size_le
    have hbranch : (loopBranch greedy (emit next code).1 out).Inner (emit next code).2.size :=
      inner_loopBranch hstart ⟨hout, houtlt⟩
    have hlt'' : (emit next code).2.size <
        ((emit next code).2.push (loopBranch greedy (emit next code).1 out)).size := by simp
    obtain ⟨hrest, hstart'⟩ := ih (Nat.zero_lt_of_lt houtlt) hlt'' (Nat.lt_trans houtlt hlt'')
    exact ⟨(hext.push hbranch).trans hrest, hstart'⟩

/-- A round is a branch, which is filled in last, and the body that goes back to it. -/
theorem round (h : Emitter.Extending emit) (greedy : Bool) {next : Nat} {code : Code}
    (hpos : 0 < next) (hlt : next < code.size) :
    let round := emitRound emit greedy next code
    Code.Extends code round.2.2 ∧ (0 < round.1 ∧ round.1 < round.2.2.size) ∧
      0 < round.2.1 ∧ round.2.1 < round.2.2.size := by
  intro round
  -- The body goes back to `code.size`, where an instruction keeps the place of the branch.
  obtain ⟨hext, hstart⟩ := h code.size (code.push .accept) (by omega) (by simp)
  have hsize : code.size < (emit code.size (code.push .accept)).2.size := by
    have := hext.size_le
    rw [Array.size_push] at this
    omega
  simp only [round, emitRound, Array.size_setIfInBounds]
  refine ⟨⟨by simp only [Array.size_setIfInBounds]; omega, fun pc hpc => ?_,
    fun pc instruction hpc hget => ?_⟩, ⟨by omega, hsize⟩, hstart⟩
  · have hpc' : pc < (code.push .accept).size := by
      rw [Array.size_push]
      omega
    rw [Array.getElem?_setIfInBounds_ne (by omega), hext.kept pc hpc', Array.getElem?_push_lt hpc,
      Array.getElem?_eq_getElem hpc]
  · rw [Array.size_setIfInBounds]
    by_cases hbranch : code.size = pc
    · subst hbranch
      rw [Array.getElem?_setIfInBounds_self_of_lt hsize] at hget
      obtain rfl := Option.some.inj hget
      exact inner_loopBranch hstart ⟨hpos, Nat.lt_trans hlt hsize⟩
    · rw [Array.getElem?_setIfInBounds_ne hbranch] at hget
      exact hext.inner pc instruction (by simp only [Array.size_push]; omega) hget

end Emitter.Extending

/-- A repetition is rounds without an end, optional copies, or copies before either. -/
theorem Emitter.Extending.loop {body : Node} (h : Emitter.Extending body.emit) {low : Nat}
    {high : Option Nat} {greedy : Bool} :
    Emitter.Extending (Node.loop body low high greedy).emit := by
  intro next code hpos hlt
  cases high with
  | none =>
    cases low with
    | zero =>
      obtain ⟨hext, hbranch, hstart⟩ := h.round greedy hpos hlt
      rw [Node.emit]
      by_cases hconsumes : body.alwaysConsumes = true
      · simp only [hconsumes, if_true]
        exact ⟨hext, hbranch⟩
      · simp only [hconsumes]
        refine ⟨hext.push (inner_loopBranch hstart ⟨hpos, ?_⟩), ?_, by simp⟩
        · exact Nat.lt_of_lt_of_le hlt hext.size_le
        · exact Nat.lt_of_le_of_lt (Nat.zero_le _) hbranch.2
    | succ low =>
      obtain ⟨hext, -, hpos', hlt'⟩ := h.round greedy hpos hlt
      obtain ⟨hrest, hstart⟩ := h.times low _ _ hpos' hlt'
      rw [Node.emit]
      exact ⟨hext.trans hrest, hstart⟩
  | some high =>
    obtain ⟨hext, hpos', hlt'⟩ := h.optional greedy hpos (high - low) hpos hlt hlt
    obtain ⟨hrest, hstart⟩ := h.times low _ _ hpos' hlt'
    rw [Node.emit]
    exact ⟨hext.trans hrest, hstart⟩

/-- **The code of a tree extends the code it is put in front of.** -/
theorem Node.emit_extending (node : Node) : Emitter.Extending node.emit := by
  induction node with
  | empty =>
    intro next code hpos hlt
    exact ⟨.refl code, hpos, hlt⟩
  | chars set =>
    intro next code hpos hlt
    refine ⟨(Code.Extends.refl code).push ⟨by simp, ?_⟩, by simp only [emit]; omega, by simp [emit]⟩
    simpa [Instruction.following] using ⟨hpos, hlt⟩
  | assert test =>
    intro next code hpos hlt
    refine ⟨(Code.Extends.refl code).push ⟨by simp, ?_⟩, by simp only [emit]; omega, by simp [emit]⟩
    simpa [Instruction.following] using ⟨hpos, hlt⟩
  | group number body ih =>
    intro next code hpos hlt
    have hclose : Instruction.Inner code.size (.note (2 * number + 1) next) :=
      ⟨by simp, by simpa [Instruction.following] using ⟨hpos, hlt⟩⟩
    obtain ⟨hext, hstart⟩ := ih code.size (code.push (.note (2 * number + 1) next)) (by omega)
      (by simp)
    refine ⟨(((Code.Extends.refl code).push hclose).trans hext).push ⟨by simp, ?_⟩, ?_,
      by simp [emit]⟩
    · simpa [Instruction.following] using hstart
    · simp only [emit]
      omega
  | seq first second ihfirst ihsecond =>
    intro next code hpos hlt
    obtain ⟨hext, hpos', hlt'⟩ := ihsecond next code hpos hlt
    obtain ⟨hext', hstart⟩ := ihfirst _ _ hpos' hlt'
    exact ⟨hext.trans hext', hstart⟩
  | choice first second ihfirst ihsecond =>
    intro next code hpos hlt
    obtain ⟨hext, hright⟩ := ihsecond next code hpos hlt
    obtain ⟨hext', hleft⟩ := ihfirst next (second.emit next code).2 hpos
      (Nat.lt_of_lt_of_le hlt hext.size_le)
    have hright' := Nat.lt_of_lt_of_le hright.2 hext'.size_le
    refine ⟨(hext.trans hext').push ⟨by simp, ?_⟩, ?_, by simp [emit]⟩
    · simpa [Instruction.following] using ⟨hleft, hright.1, hright'⟩
    · simp only [emit]
      omega
  | loop body low high greedy ih => exact ih.loop

/-! ## Programs -/

/-- A program that is left at its first instruction only by noting the place in slot 0, and comes to
its one accepting instruction only by noting the place in slot 1. -/
structure Program.Framed (program : Program) : Prop where
  start : ∃ next, program.code[program.start]? = some (.note 0 next)
  start_ne : program.start ≠ 0
  groups : 0 < program.groups
  accept : ∀ {pc : Nat}, program.code[pc]? = some .accept → pc = 0
  following : ∀ {pc next : Nat} {instruction : Instruction},
    program.code[pc]? = some instruction → next ∈ instruction.following →
      next ≠ program.start ∧ (next = 0 → instruction = .note 1 0)

/-- Where another instruction than a note of slot 0 stands is not the start. -/
theorem Program.Framed.ne_start {program : Program} (framed : program.Framed) {pc : Nat}
    {instruction : Instruction} (hget : program.code[pc]? = some instruction)
    (hnote : ∀ next, instruction ≠ .note 0 next) : pc ≠ program.start := by
  intro heq
  obtain ⟨next, hstart⟩ := framed.start
  rw [heq, hstart] at hget
  exact hnote next (Option.some.inj hget).symm

theorem Node.framed_program (node : Node) : node.program.Framed := by
  obtain ⟨hext, hpos, hlt⟩ := node.emit_extending 1 #[.accept, .note 1 0] (by simp) (by simp)
  have hcode : ∀ {pc instruction}, node.program.code[pc]? = some instruction →
      (pc = 0 ∧ instruction = .accept) ∨ (pc = 1 ∧ instruction = .note 1 0) ∨
      instruction.Inner node.program.start ∨
      instruction = .note 0 (node.emit 1 #[.accept, .note 1 0]).1 := by
    intro pc instruction hget
    simp only [program, Array.getElem?_push] at hget ⊢
    split at hget
    · exact .inr (.inr (.inr (Option.some.inj hget).symm))
    · by_cases hfirst : pc < 2
      · rw [hext.kept pc hfirst] at hget
        obtain rfl | rfl : pc = 0 ∨ pc = 1 := by omega
        · exact .inl ⟨rfl, (Option.some.inj hget).symm⟩
        · exact .inr (.inl ⟨rfl, (Option.some.inj hget).symm⟩)
      · exact .inr (.inr (.inl (hext.inner pc instruction (Nat.le_of_not_lt hfirst) hget)))
  have hstart : 2 ≤ node.program.start := hext.size_le
  have hfirst : node.program.code[node.program.start]? =
      some (.note 0 (node.emit 1 #[.accept, .note 1 0]).1) := Array.getElem?_push_size
  refine ⟨⟨_, hfirst⟩, by omega, Nat.succ_pos _, ?_, ?_⟩
  · intro pc hget
    rcases hcode hget with ⟨hpc, -⟩ | ⟨-, heq⟩ | hinner | heq
    · exact hpc
    · exact absurd heq (by simp)
    · exact absurd rfl hinner.not_accept
    · exact absurd heq (by simp)
  · intro pc next instruction hget hnext
    rcases hcode hget with ⟨-, rfl⟩ | ⟨-, rfl⟩ | hinner | rfl
    · exact absurd hnext List.not_mem_nil
    · obtain rfl : next = 0 := by simpa [Instruction.following] using hnext
      exact ⟨by omega, fun _ => rfl⟩
    · obtain ⟨hpos', hlt'⟩ := hinner.following next hnext
      exact ⟨Nat.ne_of_lt hlt', fun hzero => absurd hzero (Nat.ne_of_gt hpos')⟩
    · obtain rfl : next = (node.emit 1 #[.accept, .note 1 0]).1 := by
        simpa [Instruction.following] using hnext
      exact ⟨Nat.ne_of_lt hlt, fun hzero => absurd hzero (Nat.ne_of_gt hpos)⟩

end DynamicValues.Pattern
