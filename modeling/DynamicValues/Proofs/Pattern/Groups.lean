import DynamicValues.Proofs.Pattern.Spans

/-!
# Where groups are

A path notes the place before a group and the place behind it. While it is between the two, what it
noted last behind the group may come before what it noted last in front of it, from an earlier round
of a loop; nowhere else. The code of a tree has no way out of a group but by the second note
(`Code.Opens`, `Node.emit_opening`), so of the groups that a match reports **each begins at or before
its end**, between characters both (`ByteGroups.Bounded`, `Node.bounded_of_runFrom`).

With that the engine that runs all paths in lockstep is known to be lawful
(`Engine.lawful_lockstep`).
-/

set_option autoImplicit false

namespace DynamicValues.Pattern

/-! ## Code with an open group -/

/-- Whether a group is open behind an instruction, by whether it is before it: its first note opens it
and nothing but its second note can close it. -/
def Instruction.Passes (group : Nat) (before after : Prop) : Instruction → Prop
  | .note slot _ => (slot = 2 * group → after) ∧ (slot ≠ 2 * group + 1 → before → after)
  | _ => before → after

/-- The instructions of some code at which a group is open. -/
structure Code.Opens (group : Nat) (opened : Nat → Prop) (code : Code) : Prop where
  following : ∀ {pc : Nat} {instruction : Instruction}, code[pc]? = some instruction →
    ∀ next ∈ instruction.following, next < code.size
  passes : ∀ {pc : Nat} {instruction : Instruction}, code[pc]? = some instruction →
    ∀ next ∈ instruction.following, instruction.Passes group (opened pc) (opened next)

/-- Longer code in which a group is open where it was, and at `start` as much as at `next`. -/
structure Code.Leads (group : Nat) (opened : Nat → Prop) (code : Code) (next : Nat)
    (opened' : Nat → Prop) (code' : Code) (start : Nat) : Prop where
  opens : code'.Opens group opened'
  size_le : code.size ≤ code'.size
  kept : ∀ pc < code.size, opened' pc = opened pc
  start_lt : start < code'.size
  start_eq : opened' start = opened next

/-- An emitter puts code in front of an instruction, at the begin of which a group is as open as
there. -/
def Emitter.Opening (group : Nat) (emit : Emitter) : Prop :=
  ∀ {next : Nat} {code : Code} {opened : Nat → Prop}, next < code.size →
    code.Opens group opened →
      ∃ opened', code.Leads group opened next opened' (emit next code).2 (emit next code).1

variable {group : Nat}

theorem Instruction.Passes.of_imp {before after : Prop} {instruction : Instruction}
    (h : before → after) (hnote : ∀ next, instruction ≠ .note (2 * group) next) :
    instruction.Passes group before after := by
  cases instruction with
  | note slot next => exact ⟨fun hslot => absurd (hslot ▸ rfl) (hnote next), fun _ => h⟩
  | read _ _ => exact h
  | branch _ _ => exact h
  | assert _ _ => exact h
  | accept => exact h

theorem forall_following_loopBranch {greedy : Bool} {body out : Nat} {p : Nat → Prop} :
    (∀ next ∈ (loopBranch greedy body out).following, p next) ↔ p body ∧ p out := by
  cases greedy with
  | true => simp [loopBranch, Instruction.following]
  | false => simp [loopBranch, Instruction.following, and_comm]

/-- A branch goes on to where the group is as open as before. -/
theorem passes_loopBranch {greedy : Bool} {body out : Nat} {before : Prop} {opened : Nat → Prop}
    (hbody : opened body = before) (hout : opened out = before) :
    ∀ next ∈ (loopBranch greedy body out).following,
      (loopBranch greedy body out).Passes group before (opened next) := by
  have hnote : ∀ next, loopBranch greedy body out ≠ .note (2 * group) next := by
    cases greedy <;> simp [loopBranch]
  refine forall_following_loopBranch.2 ⟨.of_imp ?_ hnote, .of_imp ?_ hnote⟩
  · rw [hbody]
    exact id
  · rw [hout]
    exact id

namespace Code.Opens

variable {code : Code} {opened : Nat → Prop} {instruction : Instruction}

theorem push (h : code.Opens group opened) (before : Prop)
    (hfollowing : ∀ next ∈ instruction.following, next < code.size)
    (hpasses : ∀ next ∈ instruction.following, instruction.Passes group before (opened next)) :
    Code.Opens group (Function.update opened code.size before) (code.push instruction) := by
  have hcases : ∀ {pc other}, (code.push instruction)[pc]? = some other →
      (pc = code.size ∧ other = instruction) ∨ (pc < code.size ∧ code[pc]? = some other) := by
    intro pc other hget
    rw [Array.getElem?_push] at hget
    split at hget
    · next hpc => exact .inl ⟨hpc, (Option.some.inj hget).symm⟩
    · exact .inr ⟨(Array.getElem?_eq_some_iff.1 hget).1, hget⟩
  constructor
  · intro pc other hget next hnext
    rw [Array.size_push]
    rcases hcases hget with ⟨-, rfl⟩ | ⟨-, hold⟩
    · exact Nat.lt_succ_of_lt (hfollowing next hnext)
    · exact Nat.lt_succ_of_lt (h.following hold next hnext)
  · intro pc other hget next hnext
    rcases hcases hget with ⟨rfl, rfl⟩ | ⟨hpc, hold⟩
    · rw [Function.update_self, Function.update_of_ne (Nat.ne_of_lt (hfollowing next hnext))]
      exact hpasses next hnext
    · rw [Function.update_of_ne (Nat.ne_of_lt hpc),
        Function.update_of_ne (Nat.ne_of_lt (h.following hold next hnext))]
      exact h.passes hold next hnext

theorem set (h : code.Opens group opened) {place : Nat}
    (hfollowing : ∀ next ∈ instruction.following, next < code.size)
    (hpasses : ∀ next ∈ instruction.following,
      instruction.Passes group (opened place) (opened next)) :
    Code.Opens group opened (code.setIfInBounds place instruction) := by
  have hcases : ∀ {pc other}, (code.setIfInBounds place instruction)[pc]? = some other →
      (pc = place ∧ other = instruction) ∨ code[pc]? = some other := by
    intro pc other hget
    by_cases hpc : place = pc
    · subst hpc
      rw [Array.getElem?_setIfInBounds_self] at hget
      split at hget
      · exact .inl ⟨rfl, (Option.some.inj hget).symm⟩
      · exact absurd hget (by simp)
    · rw [Array.getElem?_setIfInBounds_ne hpc] at hget
      exact .inr hget
  constructor
  · intro pc other hget next hnext
    rw [Array.size_setIfInBounds]
    rcases hcases hget with ⟨-, rfl⟩ | hold
    · exact hfollowing next hnext
    · exact h.following hold next hnext
  · intro pc other hget next hnext
    rcases hcases hget with ⟨rfl, rfl⟩ | hold
    · exact hpasses next hnext
    · exact h.passes hold next hnext

end Code.Opens

namespace Code.Leads

variable {code code' code'' : Code} {opened opened' opened'' : Nat → Prop}
  {next start start' : Nat}

theorem refl (hopens : code.Opens group opened) (hlt : next < code.size) :
    Leads group opened code next opened code next :=
  ⟨hopens, Nat.le_refl _, fun _ _ => rfl, hlt, rfl⟩

theorem trans (h : Leads group opened code next opened' code' start)
    (h' : Leads group opened' code' start opened'' code'' start') :
    Leads group opened code next opened'' code'' start' where
  opens := h'.opens
  size_le := Nat.le_trans h.size_le h'.size_le
  kept pc hpc := (h'.kept pc (Nat.lt_of_lt_of_le hpc h.size_le)).trans (h.kept pc hpc)
  start_lt := h'.start_lt
  start_eq := h'.start_eq.trans h.start_eq

/-- More code in front of the same instruction. -/
theorem beside (h : Leads group opened code next opened' code' start) (hlt : next < code.size)
    (h' : Leads group opened' code' next opened'' code'' start') :
    Leads group opened code next opened'' code'' start' where
  opens := h'.opens
  size_le := Nat.le_trans h.size_le h'.size_le
  kept pc hpc := (h'.kept pc (Nat.lt_of_lt_of_le hpc h.size_le)).trans (h.kept pc hpc)
  start_lt := h'.start_lt
  start_eq := h'.start_eq.trans (h.kept next hlt)

/-- One more instruction, which goes on where the group is as open as at `next`. -/
theorem push (h : Leads group opened code next opened' code' start) (instruction : Instruction)
    (hfollowing : ∀ other ∈ instruction.following, other < code'.size)
    (hpasses : ∀ other ∈ instruction.following,
      instruction.Passes group (opened next) (opened' other)) :
    Leads group opened code next (Function.update opened' code'.size (opened next))
      (code'.push instruction) code'.size where
  opens := h.opens.push _ hfollowing hpasses
  size_le := by
    rw [Array.size_push]
    exact Nat.le_succ_of_le h.size_le
  kept pc hpc := by
    rw [Function.update_of_ne (Nat.ne_of_lt (Nat.lt_of_lt_of_le hpc h.size_le)), h.kept pc hpc]
  start_lt := by simp
  start_eq := Function.update_self ..

/-- A branch between the code and an instruction where the group is as open as at `next`. -/
theorem branch (h : Leads group opened code next opened' code' start) (greedy : Bool) {out : Nat}
    (hout : out < code.size) (heq : opened out = opened next) :
    Leads group opened code next (Function.update opened' code'.size (opened next))
      (code'.push (loopBranch greedy start out)) code'.size := by
  refine h.push _ (forall_following_loopBranch.2 ⟨h.start_lt, ?_⟩) ?_
  · exact Nat.lt_of_lt_of_le hout h.size_le
  · exact passes_loopBranch h.start_eq ((h.kept out hout).trans heq)

end Code.Leads

/-! ## The code of a tree -/

section Emitters

variable {emit : Emitter} {code : Code} {opened : Nat → Prop} {next : Nat}

namespace Emitter.Opening

theorem times (h : Emitter.Opening group emit) (count : Nat) :
    Emitter.Opening group (emitTimes emit count) := by
  induction count with
  | zero =>
    intro next code opened hlt hopens
    exact ⟨opened, .refl hopens hlt⟩
  | succ count ih =>
    intro next code opened hlt hopens
    obtain ⟨opened', hleads⟩ := h hlt hopens
    obtain ⟨opened'', hrest⟩ := ih hleads.start_lt hleads.opens
    exact ⟨opened'', hleads.trans hrest⟩

theorem optional (h : Emitter.Opening group emit) (greedy : Bool) {out : Nat} (count : Nat)
    (hlt : next < code.size) (hopens : code.Opens group opened) (hout : out < code.size)
    (heq : opened out = opened next) :
    ∃ opened', Code.Leads group opened code next opened'
      (emitOptional emit greedy out count next code).2
      (emitOptional emit greedy out count next code).1 := by
  induction count generalizing next code opened with
  | zero => exact ⟨opened, .refl hopens hlt⟩
  | succ count ih =>
    obtain ⟨opened', hleads⟩ := h hlt hopens
    have hbranch := hleads.branch greedy hout heq
    obtain ⟨opened'', hrest⟩ := ih hbranch.start_lt hbranch.opens
      (Nat.lt_of_lt_of_le hout hbranch.size_le)
      ((hbranch.kept out hout).trans (heq.trans hbranch.start_eq.symm))
    exact ⟨opened'', hbranch.trans hrest⟩

/-- The branch of a round and the body behind it. -/
theorem round (h : Emitter.Opening group emit) (greedy : Bool) (hlt : next < code.size)
    (hopens : code.Opens group opened) :
    let round := emitRound emit greedy next code
    ∃ opened', Code.Leads group opened code next opened' round.2.2 round.1 ∧
      Code.Leads group opened code next opened' round.2.2 round.2.1 := by
  intro round
  -- The body goes back to `code.size`, where an instruction keeps the place of the branch.
  have hplace := (Code.Leads.refl hopens hlt).push .accept
    (by simp [Instruction.following]) (by simp [Instruction.following])
  obtain ⟨opened', hleads⟩ := h hplace.start_lt hplace.opens
  have hbody := hplace.trans hleads
  have hbranch : opened' code.size = opened next :=
    (hleads.kept _ hplace.start_lt).trans hplace.start_eq
  have hlt' : code.size < (emit code.size (code.push .accept)).2.size :=
    Nat.lt_of_lt_of_le hplace.start_lt hleads.size_le
  have hset : (emitRound emit greedy next code).2.2.Opens group opened' := by
    refine hleads.opens.set
      (forall_following_loopBranch.2 ⟨hleads.start_lt, Nat.lt_trans hlt hlt'⟩) ?_
    rw [hbranch]
    exact passes_loopBranch hbody.start_eq (hbody.kept next hlt)
  have hsize : (emitRound emit greedy next code).2.2.size =
      (emit code.size (code.push .accept)).2.size := Array.size_setIfInBounds
  refine ⟨opened', ⟨hset, ?_, hbody.kept, ?_, hbranch⟩, hset, ?_, hbody.kept, ?_, hbody.start_eq⟩
  · exact hsize ▸ hbody.size_le
  · exact hsize ▸ hlt'
  · exact hsize ▸ hbody.size_le
  · exact hsize ▸ hbody.start_lt

/-- A repetition is rounds without an end, optional copies, or copies before either. -/
theorem loop {body : Node} (h : Emitter.Opening group body.emit) {low : Nat} {high : Option Nat}
    {greedy : Bool} : Emitter.Opening group (Node.loop body low high greedy).emit := by
  intro next code opened hlt hopens
  cases high with
  | none =>
    obtain ⟨opened', hbranch, hstart⟩ := h.round greedy hlt hopens
    cases low with
    | zero =>
      rw [Node.emit]
      by_cases hconsumes : body.alwaysConsumes = true
      · simp only [hconsumes, if_true]
        exact ⟨opened', hbranch⟩
      · simp only [hconsumes]
        exact ⟨_, hstart.branch greedy hlt rfl⟩
    | succ low =>
      obtain ⟨opened'', hrest⟩ := h.times low hstart.start_lt hstart.opens
      rw [Node.emit]
      exact ⟨opened'', hstart.trans hrest⟩
  | some high =>
    obtain ⟨opened', hoptional⟩ := h.optional greedy (high - low) hlt hopens hlt rfl
    obtain ⟨opened'', hrest⟩ := h.times low hoptional.start_lt hoptional.opens
    rw [Node.emit]
    exact ⟨opened'', hoptional.trans hrest⟩

/-- Between the notes of a group it is open, and any other group if it is open behind. -/
theorem noted {body : Node} (h : Emitter.Opening group body.emit) (number : Nat) :
    Emitter.Opening group (Node.group number body).emit := by
  intro next code opened hlt hopens
  let close : Instruction := .note (2 * number + 1) next
  have hclose : Code.Opens group (Function.update opened code.size (opened next ∨ number = group))
      (code.push close) := by
    refine hopens.push _ ?_ ?_
    · simpa [close, Instruction.following] using hlt
    · intro other hother
      obtain rfl : other = next := by simpa [close, Instruction.following] using hother
      refine ⟨fun hslot => absurd hslot (by omega), fun hslot hbefore => ?_⟩
      exact hbefore.resolve_right fun hnumber => hslot (by rw [hnumber])
  have hplace : code.size < (code.push close).size := by simp
  obtain ⟨opened', hleads⟩ := h hplace hclose
  have hstart : opened' (body.emit code.size (code.push close)).1 =
      (opened next ∨ number = group) := hleads.start_eq.trans (Function.update_self ..)
  have hlt' := Nat.lt_of_lt_of_le hplace hleads.size_le
  rw [Node.emit]
  refine ⟨_, hleads.opens.push (opened next) ?_ ?_, ?_, fun pc hpc => ?_, ?_,
    Function.update_self ..⟩
  · simpa [Instruction.following] using hleads.start_lt
  · intro other hother
    obtain rfl : other = _ := by simpa [Instruction.following] using hother
    rw [hstart]
    exact ⟨fun hslot => .inr (by omega), fun _ => .inl⟩
  · rw [Array.size_push]
    exact Nat.le_succ_of_le (Nat.le_of_lt hlt')
  · rw [Function.update_of_ne (Nat.ne_of_lt (Nat.lt_trans hpc hlt')),
      hleads.kept pc (Nat.lt_trans hpc hplace), Function.update_of_ne (Nat.ne_of_lt hpc)]
  · simp

end Emitter.Opening

/-- **There is no way out of a group but by its second note.** -/
theorem Node.emit_opening (node : Node) (group : Nat) : Emitter.Opening group node.emit := by
  induction node with
  | empty =>
    intro next code opened hlt hopens
    exact ⟨opened, .refl hopens hlt⟩
  | chars set =>
    intro next code opened hlt hopens
    refine ⟨_, (Code.Leads.refl hopens hlt).push _ ?_ ?_⟩
    · simpa [Instruction.following] using hlt
    · simp [Instruction.following, Instruction.Passes]
  | assert test =>
    intro next code opened hlt hopens
    refine ⟨_, (Code.Leads.refl hopens hlt).push _ ?_ ?_⟩
    · simpa [Instruction.following] using hlt
    · simp [Instruction.following, Instruction.Passes]
  | group number body ih => exact ih.noted number
  | seq first second ihfirst ihsecond =>
    intro next code opened hlt hopens
    obtain ⟨opened', hleads⟩ := ihsecond hlt hopens
    obtain ⟨opened'', hleads'⟩ := ihfirst hleads.start_lt hleads.opens
    exact ⟨opened'', hleads.trans hleads'⟩
  | choice first second ihfirst ihsecond =>
    intro next code opened hlt hopens
    obtain ⟨opened', hright⟩ := ihsecond hlt hopens
    obtain ⟨opened'', hleft⟩ := ihfirst (Nat.lt_of_lt_of_le hlt hright.size_le) hright.opens
    have hboth := hright.beside hlt hleft
    refine ⟨_, hboth.push _ ?_ ?_⟩
    · simpa [Instruction.following] using
        ⟨hleft.start_lt, Nat.lt_of_lt_of_le hright.start_lt hleft.size_le⟩
    · have hright' : opened'' (second.emit next code).1 = opened next :=
        (hleft.kept _ hright.start_lt).trans hright.start_eq
      simp [Instruction.following, Instruction.Passes, hboth.start_eq, hright']
  | loop body low high greedy ih => exact ih.loop

end Emitters

/-- No group is open where the program of a pattern accepts. -/
theorem Node.exists_opens (node : Node) (group : Nat) :
    ∃ opened, node.program.code.Opens group opened ∧ ¬ opened 0 := by
  -- What is behind the tree is within group 0 alone.
  have hopens : Code.Opens group (fun pc => pc = 1 ∧ group = 0) #[.accept, .note 1 0] := by
    have hcases : ∀ {pc : Nat} {instruction : Instruction},
        (#[.accept, .note 1 0] : Code)[pc]? = some instruction →
          instruction = .accept ∨ instruction = .note 1 0 := by
      intro pc instruction hget
      have hmem := Array.mem_of_getElem? hget
      simpa using hmem
    constructor
    · intro pc instruction hget next hnext
      rcases hcases hget with rfl | rfl
      · exact absurd hnext List.not_mem_nil
      · obtain rfl : next = 0 := by simpa [Instruction.following] using hnext
        simp
    · intro pc instruction hget next hnext
      rcases hcases hget with rfl | rfl
      · exact absurd hnext List.not_mem_nil
      · exact ⟨fun hslot => by omega, fun hslot hbefore => absurd hbefore.2 (by omega)⟩
  obtain ⟨opened, hleads⟩ := node.emit_opening group (show 1 < 2 by decide) hopens
  refine ⟨_, hleads.opens.push False ?_ ?_, ?_⟩
  · simpa [Instruction.following] using hleads.start_lt
  · intro next hnext
    obtain rfl : next = _ := by simpa [Instruction.following] using hnext
    rw [hleads.start_eq]
    exact ⟨fun hslot => ⟨rfl, by omega⟩, fun _ => False.elim⟩
  · have hsize : 2 ≤ (node.emit 1 #[.accept, .note 1 0]).2.size := hleads.size_le
    rw [Function.update_of_ne (by omega), hleads.kept 0 (by simp)]
    simp

/-! ## Paths -/

/-- What a path noted are places up to where it is, and those of a group are in order unless the group
is open. -/
structure Thread.Ordered (text : String) (group : Nat) (opened : Nat → Prop) (place : Nat)
    (thread : Thread) : Prop where
  noted {slot noted : Nat} : thread.slots[slot]? = some (some noted) →
    IsPlace text noted ∧ noted ≤ place
  ordered {first last : Nat} : ¬ opened thread.pc →
    thread.slots[2 * group]? = some (some first) →
    thread.slots[2 * group + 1]? = some (some last) → first ≤ last

/-- **The notes of a group are kept in order** wherever the group is not open. -/
theorem Code.Opens.keeps_ordered {program : Program} {text : String} {origin : Nat}
    {opened : Nat → Prop} (opens : program.code.Opens group opened) :
    program.Keeps text origin fun place thread => thread.Ordered text group opened place where
  start _ _ := by
    have hempty : ∀ {slot noted : Nat},
        (Array.replicate (2 * program.groups) (none : Option Nat))[slot]? ≠ some (some noted) := by
      intro slot noted
      rw [Array.getElem?_replicate]
      split <;> simp
    exact ⟨fun hslot => absurd hslot hempty, fun _ hslot => absurd hslot hempty⟩
  go {place place' next thread instruction} h hget hnote hnext hle := by
    refine ⟨fun hslot => ?_, fun hclosed => h.ordered fun hopened => hclosed ?_⟩
    · obtain ⟨hplace, hnoted⟩ := h.noted hslot
      exact ⟨hplace, Nat.le_trans hnoted hle⟩
    · have hpasses := opens.passes hget next hnext
      cases instruction with
      | note slot next => exact absurd rfl (hnote slot next)
      | read _ _ => exact hpasses hopened
      | branch _ _ => exact hpasses hopened
      | assert _ _ => exact hpasses hopened
      | accept => exact hpasses hopened
  note {place slot next thread} h hplace horigin hget := by
    obtain ⟨hopen, hpass⟩ := opens.passes hget next (by simp [Instruction.following])
    -- A slot holds the place where it was noted just now, or what it held before.
    have hslots : ∀ {slot' noted},
        (thread.slots.setIfInBounds slot (some place))[slot']? = some (some noted) →
          (slot' = slot ∧ noted = place) ∨
            slot' ≠ slot ∧ thread.slots[slot']? = some (some noted) := by
      intro slot' noted hslot
      by_cases heq : slot = slot'
      · subst heq
        rw [Array.getElem?_setIfInBounds_self] at hslot
        split at hslot
        · exact .inl ⟨rfl, by simpa using hslot.symm⟩
        · exact absurd hslot (by simp)
      · rw [Array.getElem?_setIfInBounds_ne heq] at hslot
        exact .inr ⟨Ne.symm heq, hslot⟩
    refine ⟨fun hslot => ?_, fun hclosed hfirst hlast => ?_⟩
    · rcases hslots hslot with ⟨-, rfl⟩ | ⟨-, hold⟩
      · exact ⟨hplace, Nat.le_refl _⟩
      · exact h.noted hold
    · rcases hslots hfirst with ⟨heq, -⟩ | ⟨-, hfirst⟩
      · exact absurd (hopen heq.symm) hclosed
      · rcases hslots hlast with ⟨-, heq⟩ | ⟨hne, hlast⟩
        · exact heq ▸ (h.noted hfirst).2
        · exact h.ordered (fun hopened => hclosed (hpass (Ne.symm hne) hopened)) hfirst hlast

/-! ## Matches -/

theorem exists_slots_of_mem {count first last : Nat} {slots : Slots}
    (h : some (first, last) ∈ groupsOfSlots count slots) :
    ∃ group, slots[2 * group]? = some (some first) ∧ slots[2 * group + 1]? = some (some last) := by
  obtain ⟨group, -, hgroup⟩ := List.mem_map.1 h
  refine ⟨group, ?_⟩
  split at hgroup
  · next hfirst hlast =>
    obtain ⟨rfl, rfl⟩ := Prod.mk.inj (Option.some.inj hgroup)
    exact ⟨hfirst, hlast⟩
  · exact absurd hgroup (by simp)

/-- **The groups of a match are bounded.** -/
theorem Node.bounded_of_runFrom {node : Node} {text : String} {place : Nat} {mode : Mode}
    {groups : ByteGroups} (hplace : IsPlace text place)
    (h : (node.program.runFrom text mode true place (.fresh node.program.code.size) none).map
      (groupsOfSlots node.program.groups) = some groups) : groups.Bounded text := by
  intro first last hmem
  obtain ⟨slots, hslots, rfl⟩ := Option.map_eq_some_iff.1 h
  obtain ⟨group, hfirst, hlast⟩ := exists_slots_of_mem hmem
  obtain ⟨opened, hopens, hclosed⟩ := node.exists_opens group
  obtain ⟨_, thread, -, hordered, hget, rfl⟩ :=
    hopens.keeps_ordered.run hplace (Nat.le_refl place) mode slots hslots
  rw [← node.framed_program.accept hget] at hclosed
  exact ⟨hordered.ordered hclosed hfirst hlast, (hordered.noted hfirst).1,
    (hordered.noted hlast).1⟩

end DynamicValues.Pattern


namespace DynamicValues

/-! ## The engine -/

/-- **The program of a tree finds what an engine documents.** -/
theorem CompiledPattern.lawful_ofNode (source : String) (modifiers : Modifiers)
    (node : Pattern.Node) : (ofNode source modifiers node).Lawful where
  sound := Searcher.sound_ofProgram node.framed_program
  bounded :=
    { capturesAt hplace h := Pattern.Node.bounded_of_runFrom hplace h
      nonemptyAt hplace h :=
        Pattern.Node.bounded_of_runFrom hplace (Searcher.longest_of_nonemptyAt h).1 }
  counts := by
    have hentries : (ofNode source modifiers node).groupCount + 1 = node.program.groups :=
      Nat.sub_add_cancel node.framed_program.groups
    exact hentries ▸ Searcher.counts_ofProgram

/-- **The engine that runs all paths in lockstep is lawful.** -/
theorem Engine.lawful_lockstep : Engine.lockstep.Lawful := by
  intro sizeLimit source modifiers pattern hcompile
  simp only [CompiledPattern.compile, lockstep] at hcompile
  cases hnode : Pattern.Node.ofSource? source modifiers with
  | none => simp [hnode] at hcompile
  | some node =>
    by_cases hsize : node.machineBytes ≤ sizeLimit
    · obtain rfl : CompiledPattern.ofNode source modifiers node = pattern := by
        simpa [hnode, hsize, CompiledPattern.ofNode, Searcher.ofProgram] using hcompile
      exact CompiledPattern.lawful_ofNode source modifiers node
    · simp [hnode, hsize] at hcompile

end DynamicValues
