import DynamicValues.Proofs.Class.Changes
import Mathlib.Tactic.ByContra

/-!
# What the cut-off of a walk hides

A linear order holds nothing but classes within `maxDepth` links (`exists_isaPath_of_mem_walk`), and
it should hold all of them (`SymbolTable.Covers`). It does not always. A walk that comes to a class
with no link left does not look at its parents; and when a shorter path leads to the class later, it
is in the list already and is not entered again. `SymbolTable.CutShort` are the classes whose parents
are lost that way, and they are the only cause: the order covers what is near **exactly if** no class
is cut short (`covers_linearIsa_iff`).
-/

set_option autoImplicit false

namespace DynamicValues.SymbolTable

/-- The linear order of a class holds exactly what can be reached from it within `maxDepth` links. -/
def Covers (table : SymbolTable) (id : StashId) : Prop :=
  ∀ x, x ∈ table.linearIsa id ↔ ∃ n ≤ table.maxDepth, table.IsaPath n id x

/-- The walk from a class first comes to `x` with no link left, though `x` is nearer than that, and a
parent of `x` is not found anywhere else. -/
structure CutShort (table : SymbolTable) (id x : StashId) : Prop where
  spent : table.Meets (table.maxDepth + 1) [] id x 0
  near : ∃ n < table.maxDepth, table.IsaPath n id x
  lost : ∃ parent ∈ table.isa x, parent ∉ table.linearIsa id

variable {table : SymbolTable}

/-- The parents of a class that is found and not cut short are found. -/
theorem isa_subset_linearIsa {id x : StashId} (uncut : ¬ table.CutShort id x)
    (h : x ∈ table.linearIsa id) (near : ∃ n < table.maxDepth, table.IsaPath n id x) :
    table.isa x ⊆ table.linearIsa id := by
  obtain ⟨left, hmeets⟩ := exists_meets h List.not_mem_nil
  cases left with
  | zero =>
    intro parent hparent
    by_contra hlost
    exact uncut ⟨hmeets, near, parent, hparent, hlost⟩
  | succ left => exact hmeets.isa_subset_walk (Nat.succ_pos left)

/-- Along a path within the bound everything is found, one link after the other. -/
theorem mem_linearIsa_of_isaPath {id x y : StashId} {m n : Nat}
    (uncut : ∀ z, ¬ table.CutShort id z) (hpath : table.IsaPath n x y)
    (hfirst : table.IsaPath m id x) (hle : m + n ≤ table.maxDepth) (h : x ∈ table.linearIsa id) :
    y ∈ table.linearIsa id := by
  -- The links from `id` to where the path goes on are counted by `m`.
  induction hpath generalizing m with
  | here _ => exact h
  | link first _ ih =>
    have hparent := isa_subset_linearIsa (uncut _) h ⟨m, by omega, hfirst⟩ first
    exact ih (hfirst.trans_link first) (by omega) hparent

/-- **A linear order covers what is near exactly if no class is cut short.** Beyond the bound it
never reaches; and only a class at the end of both a path of `maxDepth` links and of a shorter one
can be cut short. -/
theorem covers_linearIsa_iff (table : SymbolTable) (id : StashId) :
    (table.Covers id ↔ ∀ x, ¬ table.CutShort id x) ∧
    (∀ x ∈ table.linearIsa id, ∃ n ≤ table.maxDepth, table.IsaPath n id x) ∧
    ∀ x, table.CutShort id x →
      table.IsaPath table.maxDepth id x ∧ ∃ n < table.maxDepth, table.IsaPath n id x := by
  have hwithin : ∀ x ∈ table.linearIsa id, ∃ n ≤ table.maxDepth, table.IsaPath n id x := by
    intro x hx
    obtain ⟨n, hn, hpath⟩ := exists_isaPath_of_mem_walk hx List.not_mem_nil
    exact ⟨n, Nat.le_of_lt_succ hn, hpath⟩
  refine ⟨⟨fun covers x hcut => ?_, fun uncut x => ⟨hwithin x, ?_⟩⟩, hwithin, fun x hcut => ?_⟩
  · obtain ⟨n, hn, hpath⟩ := hcut.near
    obtain ⟨parent, hparent, hlost⟩ := hcut.lost
    exact hlost ((covers parent).2 ⟨n + 1, hn, hpath.trans_link hparent⟩)
  · rintro ⟨n, hn, hpath⟩
    exact mem_linearIsa_of_isaPath uncut hpath (.here id) (by omega) (mem_linearIsa_self id)
  · obtain ⟨n, hn, hpath⟩ := hcut.spent.exists_isaPath
    obtain rfl : n = table.maxDepth := by omega
    exact ⟨hpath, hcut.near⟩

/-- `A` has the parents `B` and `D`, `B` has the parent `D`, and `D` the parent `E`. -/
def doubleLine : SymbolTable :=
  (ClassChange.run
    [.intern "A", .intern "B", .intern "D", .intern "E",
      .setIsa ⟨0⟩ [⟨1⟩, ⟨2⟩], .setIsa ⟨1⟩ [⟨2⟩], .setIsa ⟨2⟩ [⟨3⟩]]
    { (default : World) with classes := .empty 2 }).classes

/-- **A class within the bound can be missing**: a walk of two links from `A` comes to `D` by way of
`B`, where it ends, and so never to `E`, which is two links away by way of `D` alone. -/
theorem not_covers_doubleLine : ¬ doubleLine.Covers ⟨0⟩ := by
  intro covers
  have hdepth : 2 ≤ doubleLine.maxDepth := by decide +kernel
  have hfirst : (⟨2⟩ : StashId) ∈ doubleLine.isa ⟨0⟩ := by decide +kernel
  have hsecond : (⟨3⟩ : StashId) ∈ doubleLine.isa ⟨2⟩ := by decide +kernel
  have hmissing : (⟨3⟩ : StashId) ∉ doubleLine.linearIsa ⟨0⟩ := by decide +kernel
  exact hmissing ((covers ⟨3⟩).2 ⟨2, hdepth, .link hfirst (.link hsecond (.here ⟨3⟩))⟩)

end DynamicValues.SymbolTable
