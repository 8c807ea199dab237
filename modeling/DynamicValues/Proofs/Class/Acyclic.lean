import DynamicValues.Proofs.Class.Changes
import Mathlib.Tactic.ByContra
import Mathlib.Tactic.Push

/-!
# When inheritance stays free of cycles

`setIsa` refuses parents whose walk comes to the class. The walk is cut off at a depth, so it can
miss a class that a parent inherits from, and then the call makes the class its own ancestor.
`SymbolTable.Overlooks` names these calls, and they are all that can go wrong: the graph of parents
is free of cycles all along a run **exactly if** no call of the run overlooks an ancestor
(`acyclic_run_iff`). Only a path of more than `maxDepth` links makes such a call possible
(`Overlooks.exists_isaPath`), an ancestor at the end of such paths only is always overlooked
(`overlooks_of_far`), and apart from such calls a list of parents is refused exactly if it
would close a cycle.

`cycle_past_maxDepth` shows a run of a few calls that does close one.
-/

set_option autoImplicit false

namespace DynamicValues

namespace SymbolTable

/-! ## One change of parents -/

section Cross

variable {table table' : SymbolTable} {id : StashId} {parents : List StashId}

/-- A path with the new links either is one with the old links, or comes to the class and goes on
from one of its new parents. -/
theorem ancestor_or_cross (h : ∀ c, table'.isa c = if c = id then parents else table.isa c)
    {a b : StashId} (hab : table'.Ancestor a b) :
    table.Ancestor a b ∨ (table.Inherits a id ∧ ∃ parent ∈ parents, table.Inherits parent b) := by
  -- A link is new exactly if it leads out of the class.
  have hlink : ∀ c d, table'.Parent c d → (c = id ∧ d ∈ parents) ∨ table.Parent c d := by
    intro c d hcd
    rw [Parent, h c] at hcd
    by_cases hc : c = id
    · rw [if_pos hc] at hcd
      exact .inl ⟨hc, hcd⟩
    · rw [if_neg hc] at hcd
      exact .inr hcd
  induction hab with
  | single hstep =>
    rcases hlink _ _ hstep with ⟨rfl, hparent⟩ | hold
    · exact .inr ⟨.refl, _, hparent, .refl⟩
    · exact .inl (.single hold)
  | tail _ hstep ih =>
    rcases hlink _ _ hstep with ⟨rfl, hparent⟩ | hold
    · rcases ih with hpath | ⟨hfrom, -⟩
      · exact .inr ⟨hpath.to_reflTransGen, _, hparent, .refl⟩
      · exact .inr ⟨hfrom, _, hparent, .refl⟩
    · rcases ih with hpath | ⟨hfrom, parent, hparent, hto⟩
      · exact .inl (hpath.tail hold)
      · exact .inr ⟨hfrom, parent, hparent, hto.tail hold⟩

/-- A path to the class does not need the links out of the class. -/
theorem Inherits.of_isa_ne (h : ∀ c, table'.isa c = if c = id then parents else table.isa c)
    {a : StashId} (ha : table.Inherits a id) : table'.Inherits a id := by
  induction ha using Relation.ReflTransGen.head_induction_on with
  | refl => exact .refl
  | @head c d hstep _ ih =>
    by_cases hc : c = id
    · exact hc ▸ .refl
    · refine Relation.ReflTransGen.head ?_ ih
      rw [Parent, h c, if_neg hc]
      exact hstep

/-- New parents close a cycle exactly if one of them inherits from the class. -/
theorem acyclic_setIsa_iff (acyclic : table.Acyclic) (h : table.setIsa id parents = .ok table') :
    table'.Acyclic ↔ ∀ parent ∈ parents, ¬ table.Inherits parent id := by
  have hisa := isa_of_setIsa h
  constructor
  · intro acyclic' parent hparent hinherits
    -- The new link out of the class and the old path back to it are a cycle.
    have hfirst : table'.Parent id parent := by
      rw [Parent, hisa id, if_pos rfl]
      exact hparent
    exact acyclic' id (Relation.TransGen.head' hfirst (hinherits.of_isa_ne hisa))
  · intro hfree a hcycle
    rcases ancestor_or_cross hisa hcycle with hold | ⟨hfrom, parent, hparent, hto⟩
    · exact acyclic a hold
    · exact hfree parent hparent (hto.trans hfrom)

theorem Acyclic.of_isa_eq (acyclic : table.Acyclic) (h : table'.isa = table.isa) :
    table'.Acyclic := by
  have hparent : table'.Parent = table.Parent := by
    unfold Parent
    rw [h]
  intro a hcycle
  rw [Ancestor, hparent] at hcycle
  exact acyclic a hcycle

end Cross

theorem acyclic_empty (maxDepth : Nat) : (empty maxDepth).Acyclic := by
  intro a hcycle
  obtain ⟨b, hstep, -⟩ := Relation.TransGen.head'_iff.1 hcycle
  exact absurd hstep (by simp [Parent, isa, get?, empty])

/-! ## Overlooked ancestors -/

/-- One of the parents is the class or inherits from it, but the walk from none of them comes to the
class. -/
structure Overlooks (table : SymbolTable) (id : StashId) (parents : List StashId) : Prop where
  known : ∀ c ∈ id :: parents, table.Known c
  inherits : ∃ parent ∈ parents, table.Inherits parent id
  unseen : ∀ parent ∈ parents, id ∉ table.linearIsa parent

/-- Overlooked ancestors are what separates the accepted lists from those that close no cycle. -/
theorem overlooks_iff {table : SymbolTable} {id : StashId} {parents : List StashId} :
    table.Overlooks id parents ↔
      table.Accepts id parents ∧ ∃ parent ∈ parents, table.Inherits parent id := by
  constructor
  · rintro ⟨known, inherits, unseen⟩
    obtain ⟨stash, hstash⟩ := Option.isSome_iff_exists.1 (known id List.mem_cons_self)
    exact ⟨⟨_, setIsa_eq_ok_iff.2 ⟨known, unseen, stash, hstash, rfl⟩⟩, inherits⟩
  · rintro ⟨⟨table', hok⟩, inherits⟩
    obtain ⟨known, unseen, -⟩ := setIsa_eq_ok_iff.1 hok
    exact ⟨known, inherits, unseen⟩

/-- Nothing is overlooked where every path from a parent is within the depth of the walk. -/
theorem Overlooks.exists_isaPath {table : SymbolTable} {id : StashId} {parents : List StashId}
    (h : table.Overlooks id parents) :
    ∃ parent ∈ parents, ∃ n last, table.maxDepth < n ∧ table.IsaPath n parent last := by
  obtain ⟨parent, hparent, hinherits⟩ := h.inherits
  refine ⟨parent, hparent, ?_⟩
  by_contra hshort
  push Not at hshort
  refine h.unseen parent hparent (mem_linearIsa_of_inherits (fun n last hpath => ?_) hinherits)
  by_contra hlong
  exact hshort n last (by omega) hpath

/-- A class that the parents inherit from only by paths longer than the walk is overlooked. -/
theorem overlooks_of_far {table : SymbolTable} {id : StashId} {parents : List StashId}
    (known : ∀ c ∈ id :: parents, table.Known c)
    (inherits : ∃ parent ∈ parents, table.Inherits parent id)
    (far : ∀ parent ∈ parents, ∀ n, table.IsaPath n parent id → table.maxDepth < n) :
    table.Overlooks id parents := by
  refine ⟨known, inherits, fun parent hparent hmem => ?_⟩
  obtain ⟨n, hn, hpath⟩ := exists_isaPath_of_mem_walk hmem (by simp)
  exact absurd (far parent hparent n hpath) (by omega)

/-- Apart from overlooked ancestors, the refused lists are those that would close a cycle. -/
theorem setIsa_eq_recursive_iff_inherits {table : SymbolTable} {id : StashId}
    {parents : List StashId} (known : ∀ c ∈ id :: parents, table.Known c) :
    table.setIsa id parents = .error (.recursiveInheritance (table.name id)) ↔
      (∃ parent ∈ parents, table.Inherits parent id) ∧ ¬ table.Overlooks id parents := by
  rw [setIsa_eq_recursive_iff known, overlooks_iff]
  constructor
  · intro hrefused
    refine ⟨?_, fun hover => hrefused hover.1⟩
    by_contra hnone
    push Not at hnone
    obtain ⟨stash, hstash⟩ := Option.isSome_iff_exists.1 (known id List.mem_cons_self)
    refine hrefused ⟨_, setIsa_eq_ok_iff.2 ⟨known, fun parent hparent hmem => ?_, stash, hstash, rfl⟩⟩
    exact hnone parent hparent (inherits_of_mem_linearIsa hmem)
  · rintro ⟨hinherits, hnot⟩ haccepts
    exact hnot ⟨haccepts, hinherits⟩

end SymbolTable

/-! ## Runs -/

namespace ClassChange

/-- One operation keeps inheritance free of cycles exactly if it overlooks no ancestor. -/
theorem acyclic_apply_iff {change : ClassChange} {world : World} (acyclic : world.classes.Acyclic) :
    (change.apply world).classes.Acyclic ↔
      ∀ id parents, change = .setIsa id parents → ¬ world.classes.Overlooks id parents := by
  rcases isa_apply change world with ⟨id, parents, rfl, hok⟩ | ⟨hrefused, hisa⟩
  · rw [SymbolTable.acyclic_setIsa_iff acyclic hok]
    constructor
    · intro hfree id' parents' heq hover
      obtain ⟨rfl, rfl⟩ := ClassChange.setIsa.inj heq
      obtain ⟨parent, hparent, hinherits⟩ := hover.inherits
      exact hfree parent hparent hinherits
    · intro hnot parent hparent hinherits
      exact hnot id parents rfl
        (SymbolTable.overlooks_iff.2 ⟨⟨_, hok⟩, parent, hparent, hinherits⟩)
  · constructor
    · intro _ id parents heq hover
      exact hrefused id parents heq (SymbolTable.overlooks_iff.1 hover).1
    · intro _
      exact acyclic.of_isa_eq hisa

/-- The same for a run, at each of its moments. -/
theorem acyclic_run_iff {changes : List ClassChange} {world : World}
    (acyclic : world.classes.Acyclic) :
    (∀ n, (run (changes.take n) world).classes.Acyclic) ↔
      ∀ n id parents, changes[n]? = some (.setIsa id parents) →
        ¬ (run (changes.take n) world).classes.Overlooks id parents := by
  induction changes generalizing world with
  | nil => simpa using acyclic
  | cons change changes ih =>
    constructor
    · intro hall n id parents hn
      have hfirst : (change.apply world).classes.Acyclic := by simpa using hall 1
      cases n with
      | zero => exact (acyclic_apply_iff acyclic).1 hfirst id parents (by simpa using hn)
      | succ n => exact (ih hfirst).1 (fun m => by simpa using hall (m + 1)) n id parents hn
    · intro hnot n
      have hfirst : (change.apply world).classes.Acyclic :=
        (acyclic_apply_iff acyclic).2 fun id parents heq => hnot 0 id parents (by simp [heq])
      cases n with
      | zero => exact acyclic
      | succ n =>
        exact (ih hfirst).2 (fun m id parents hm => hnot (m + 1) id parents (by simpa using hm)) n

/-- **From an empty table on, inheritance is free of cycles all along a run exactly if no call of
the run overlooks an ancestor.** An overlooked ancestor takes a path of more than `maxDepth` links,
one that is reached by such paths only is overlooked, and any other list of parents is refused
exactly if one of them is the class or inherits from it. -/
theorem acyclic_run_from_empty_iff (maxDepth : Nat) (world : World) (changes : List ClassChange) :
    let table (n : Nat) : SymbolTable :=
      (run (changes.take n) { world with classes := .empty maxDepth }).classes
    ((∀ n, (table n).Acyclic) ↔
      ∀ n id parents, changes[n]? = some (.setIsa id parents) →
        ¬ (table n).Overlooks id parents) ∧
    (∀ n id parents, (table n).Overlooks id parents →
      ∃ parent ∈ parents, ∃ length last, maxDepth < length ∧
        (table n).IsaPath length parent last) ∧
    (∀ n id parents, (∀ c ∈ id :: parents, (table n).Known c) →
      (∃ parent ∈ parents, (table n).Inherits parent id) →
      (∀ parent ∈ parents, ∀ length, (table n).IsaPath length parent id → maxDepth < length) →
        (table n).Overlooks id parents) ∧
    ∀ n id parents, (∀ c ∈ id :: parents, (table n).Known c) →
      ((table n).setIsa id parents = .error (.recursiveInheritance ((table n).name id)) ↔
        (∃ parent ∈ parents, (table n).Inherits parent id) ∧
          ¬ (table n).Overlooks id parents) := by
  intro table
  have hdepth : ∀ n, (table n).maxDepth = maxDepth := fun n => maxDepth_run _ _
  refine ⟨acyclic_run_iff (SymbolTable.acyclic_empty maxDepth), ?_, ?_, ?_⟩
  · intro n id parents hover
    obtain ⟨parent, hparent, length, last, hlong, hpath⟩ := hover.exists_isaPath
    exact ⟨parent, hparent, length, last, hdepth n ▸ hlong, hpath⟩
  · intro n id parents hknown hinherits hfar
    refine SymbolTable.overlooks_of_far hknown hinherits fun parent hparent length hpath => ?_
    exact hdepth n ▸ hfar parent hparent length hpath
  · intro n id parents hknown
    exact SymbolTable.setIsa_eq_recursive_iff_inherits hknown

/-- Three classes in a row with a walk of one link: the last of them is no ancestor of the first as
far as the walk goes. -/
def closingRow : List ClassChange :=
  [.intern "A", .intern "B", .intern "C", .setIsa ⟨0⟩ [⟨1⟩], .setIsa ⟨1⟩ [⟨2⟩], .setIsa ⟨2⟩ [⟨0⟩]]

/-- **A hierarchy of more links than the walk follows can be closed to a cycle.** -/
theorem cycle_past_maxDepth :
    ¬ (run closingRow { (default : World) with classes := .empty 1 }).classes.Acyclic := by
  intro acyclic
  refine acyclic ⟨0⟩ (Relation.TransGen.tail (b := ⟨2⟩) (Relation.TransGen.tail (b := ⟨1⟩)
    (Relation.TransGen.single ?_) ?_) ?_)
  · show (⟨1⟩ : StashId) ∈ _
    decide +kernel
  · show (⟨2⟩ : StashId) ∈ _
    decide +kernel
  · show (⟨0⟩ : StashId) ∈ _
    decide +kernel

end ClassChange

end DynamicValues
