import DynamicValues.Proofs.Class.Walk
import Mathlib.Algebra.Order.BigOperators.Group.Finset
import Mathlib.Algebra.Ring.Nat

/-!
# The walk as a recursion

A walk is a recursion over parents that hands one list of the classes seen on from call to call, up,
down and from one parent to the next. Parents may be any numbers, so that a class can come up again
among its own ancestors, or twice in one list, or not be in the table at all.
`SymbolTable.WalkCalls` is the recursion as a relation, with all calls and how deep each one is; a
derivation is the tree of the calls, and so a walk that ends.

**Every walk ends** (`exists_walkCalls`), and not because the depth is limited, which may be to any
number: a class that is entered is seen by all calls that follow, and there are finitely many classes
with parents. So there is at most one call more than the whole table has parent links
(`WalkCalls.length_calls`, `links_le_totalLinks`).

What is listed is an order that grows by one class at a time (`SymbolTable.Grows`), each of them new
and a parent of one before it. That is the one invariant of the recursion (`WalkCalls.grows`), and
the shape of a linear order is read off it.
-/

set_option autoImplicit false

namespace DynamicValues.SymbolTable

variable {table : SymbolTable}

/-! ## Orders that grow from a class -/

/-- A list that begins with `root` and takes in one class after the other, each for the first time
and as a parent of one that it has. -/
inductive Grows (table : SymbolTable) (root : StashId) : List StashId → Prop where
  | start : Grows table root [root]
  | next {order : List StashId} {child parent : StashId} (grown : Grows table root order)
      (hchild : child ∈ order) (hparent : parent ∈ table.isa child) (fresh : parent ∉ order) :
      Grows table root (order ++ [parent])

namespace Grows

variable {root : StashId} {order : List StashId}

theorem head?_eq (h : table.Grows root order) : order.head? = some root := by
  induction h with
  | start => rfl
  | next _ _ _ _ ih => rw [List.head?_append, ih, Option.some_or]

theorem nodup (h : table.Grows root order) : order.Nodup := by
  induction h with
  | start => exact List.nodup_singleton root
  | next _ _ _ fresh ih =>
    rw [← List.concat_eq_append]
    exact ih.concat fresh

/-- All but the first are parents of one before them. -/
theorem exists_child (h : table.Grows root order) {before after : List StashId} {x : StashId}
    (horder : order = before ++ x :: after) (hlater : before ≠ []) :
    ∃ child ∈ before, x ∈ table.isa child := by
  induction h generalizing after with
  | start =>
    rw [List.singleton_eq_append_iff] at horder
    rcases horder with ⟨hfirst, -⟩ | ⟨-, hrest⟩
    · exact absurd hfirst hlater
    · exact absurd hrest (List.cons_ne_nil x after)
  | @next order child parent _ hchild hparent _ ih =>
    -- The class asked for is the last one taken in, or it was there before.
    rcases List.eq_nil_or_concat after with rfl | ⟨rest, last, rfl⟩
    · obtain ⟨rfl, hlast⟩ := List.append_inj' horder rfl
      obtain rfl : parent = x := List.singleton_inj.1 hlast
      exact ⟨child, hchild, hparent⟩
    · rw [List.concat_eq_append, ← List.cons_append, ← List.append_assoc] at horder
      exact ih (List.append_inj' horder rfl).1

end Grows

/-! ## The recursion -/

/-- Walking from a list of classes in turn, `depth` parent links deep, the first order being what was
seen before: all calls, each with its class and depth, and the order at the end. -/
inductive WalkCalls (table : SymbolTable) :
    Nat → List StashId → List StashId → List (StashId × Nat) → List StashId → Prop where
  | done (depth : Nat) (seen : List StashId) : WalkCalls table depth [] seen [] seen
  /-- A class past the limit of depth, or one that was seen. -/
  | leave {depth : Nat} {id : StashId} {pending seen after : List StashId}
      {calls : List (StashId × Nat)} (hleave : table.maxDepth < depth ∨ id ∈ seen)
      (others : WalkCalls table depth pending seen calls after) :
      WalkCalls table depth (id :: pending) seen ((id, depth) :: calls) after
  /-- A new class: it is listed, and then its parents are walked from. -/
  | enter {depth : Nat} {id : StashId} {pending seen between after : List StashId}
      {inside calls : List (StashId × Nat)} (hdepth : depth ≤ table.maxDepth) (hnew : id ∉ seen)
      (parents : WalkCalls table (depth + 1) (table.isa id) (seen ++ [id]) inside between)
      (others : WalkCalls table depth pending between calls after) :
      WalkCalls table depth (id :: pending) seen ((id, depth) :: (inside ++ calls)) after

theorem walk_of_mem {depth : Nat} {seen : List StashId} {id : StashId} (h : id ∈ seen) :
    table.walk depth seen id = seen := by
  cases depth with
  | zero => rfl
  | succ depth => rw [walk, if_pos h]

namespace WalkCalls

variable {depth : Nat} {pending seen after after' : List StashId}
  {calls calls' : List (StashId × Nat)}

/-- **The recursion lists what a walk of the links left lists.** -/
theorem eq_foldl (h : table.WalkCalls depth pending seen calls after) :
    after = pending.foldl (table.walk (table.maxDepth + 1 - depth)) seen := by
  induction h with
  | done depth seen => rfl
  | @leave depth id pending seen after calls hleave _ ih =>
    have hleft : table.walk (table.maxDepth + 1 - depth) seen id = seen := by
      rcases hleave with hpast | hseen
      · rw [Nat.sub_eq_zero_of_le hpast, walk]
      · exact walk_of_mem hseen
    rw [List.foldl_cons, hleft]
    exact ih
  | @enter depth id pending seen between after inside calls hdepth hnew _ _ ihParents ihOthers =>
    rw [Nat.add_sub_add_right] at ihParents
    have hentered : table.walk (table.maxDepth + 1 - depth) seen id = between := by
      rw [Nat.succ_sub hdepth, walk, if_neg hnew]
      exact ihParents.symm
    rw [List.foldl_cons, hentered]
    exact ihOthers

/-- The recursion has no choice. -/
theorem unique (h : table.WalkCalls depth pending seen calls after)
    (h' : table.WalkCalls depth pending seen calls' after') : calls' = calls ∧ after' = after := by
  induction h generalizing calls' after' with
  | done depth seen =>
    cases h'
    exact ⟨rfl, rfl⟩
  | leave hleave _ ih =>
    cases h' with
    | leave _ others' =>
      obtain ⟨rfl, rfl⟩ := ih others'
      exact ⟨rfl, rfl⟩
    | enter hdepth' hnew' =>
      rcases hleave with hpast | hseen
      · exact absurd hdepth' (Nat.not_le_of_lt hpast)
      · exact absurd hseen hnew'
  | enter hdepth hnew _ _ ihParents ihOthers =>
    cases h' with
    | leave hleave' =>
      rcases hleave' with hpast | hseen
      · exact absurd hdepth (Nat.not_le_of_lt hpast)
      · exact absurd hseen hnew
    | enter _ _ parents' others' =>
      obtain ⟨rfl, rfl⟩ := ihParents parents'
      obtain ⟨rfl, rfl⟩ := ihOthers others'
      exact ⟨rfl, rfl⟩

/-- What was seen stays where it is. -/
theorem begins (h : table.WalkCalls depth pending seen calls after) : seen <+: after := by
  rw [h.eq_foldl]
  exact prefix_foldl_walk (prefix_walk _) pending seen

/-- **All that is listed grows**, if the classes to walk from are parents of classes seen. -/
theorem grows (h : table.WalkCalls depth pending seen calls after) {root : StashId}
    (grown : table.Grows root seen)
    (offered : ∀ parent ∈ pending, ∃ child ∈ seen, parent ∈ table.isa child) :
    table.Grows root after := by
  induction h with
  | done depth seen => exact grown
  | leave _ _ ih =>
    exact ih grown fun parent hparent => offered parent (List.mem_cons_of_mem _ hparent)
  | @enter depth id pending seen between after inside calls _ hnew parents _ ihParents ihOthers =>
    obtain ⟨child, hchild, hid⟩ := offered id List.mem_cons_self
    have hbetween : table.Grows root between := by
      refine ihParents (grown.next hchild hid hnew) fun parent hparent => ?_
      exact ⟨id, by simp, hparent⟩
    refine ihOthers hbetween fun parent hparent => ?_
    obtain ⟨child, hchild, hlisted⟩ := offered parent (List.mem_cons_of_mem _ hparent)
    exact ⟨child, parents.begins.subset (List.mem_append_left _ hchild), hlisted⟩

/-- The calls that are not finished yet have listed a class each, so a call is no deeper than classes
are listed. -/
theorem depth_le (h : table.WalkCalls depth pending seen calls after)
    (hlimit : depth ≤ table.maxDepth + 1) (hlisted : depth ≤ seen.length) :
    ∀ call ∈ calls, call.2 ≤ table.maxDepth + 1 ∧ call.2 ≤ after.length := by
  induction h with
  | done depth seen => exact fun call hcall => absurd hcall List.not_mem_nil
  | leave _ others ih =>
    intro call hcall
    rcases List.mem_cons.1 hcall with rfl | hcall
    · exact ⟨hlimit, Nat.le_trans hlisted others.begins.length_le⟩
    · exact ih hlimit hlisted call hcall
  | @enter depth id pending seen between after inside calls hdepth _ parents others ihParents
      ihOthers =>
    have hbetween : seen.length + 1 ≤ between.length := by
      simpa using parents.begins.length_le
    have hafter := others.begins.length_le
    intro call hcall
    rcases List.mem_cons.1 hcall with rfl | hcall
    · exact ⟨hlimit, by omega⟩
    · rcases List.mem_append.1 hcall with hinside | hcall
      · obtain ⟨hnear, hfew⟩ := ihParents (by omega) (by simpa using hlisted) call hinside
        exact ⟨hnear, by omega⟩
      · exact ihOthers hlimit (by omega) call hcall

end WalkCalls

/-! ## How many calls there are -/

/-- The number of parent links of the classes in a list. -/
def links (table : SymbolTable) (order : List StashId) : Nat :=
  (order.map fun id => (table.isa id).length).sum

/-- A call is for a class given or for a parent of one that was listed. -/
theorem WalkCalls.length_calls {depth : Nat} {pending seen after : List StashId}
    {calls : List (StashId × Nat)} (h : table.WalkCalls depth pending seen calls after) :
    calls.length + table.links seen = pending.length + table.links after := by
  induction h with
  | done depth seen => rfl
  | leave _ _ ih =>
    rw [List.length_cons, List.length_cons]
    omega
  | @enter depth id pending seen between after inside calls _ _ _ _ ihParents ihOthers =>
    have hseen : table.links (seen ++ [id]) = table.links seen + (table.isa id).length := by
      simp [links]
    rw [List.length_cons, List.length_cons, List.length_append]
    omega

/-- The classes of the table. -/
def ids (table : SymbolTable) : Finset StashId :=
  (Finset.range table.size).filterMap StashId.ofIndex? fun _ _ _ h h' =>
    (StashId.ofIndex?_eq_some_iff.1 h).symm.trans (StashId.ofIndex?_eq_some_iff.1 h')

theorem mem_ids_of_isa_ne_nil {id : StashId} (h : table.isa id ≠ []) : id ∈ table.ids := by
  rw [ids, Finset.mem_filterMap]
  refine ⟨id.index, Finset.mem_range.2 (Nat.lt_of_not_le fun hout => h (isa_eq_nil hout)), ?_⟩
  exact StashId.ofIndex?_eq_some_iff.2 rfl

/-- The number of parent links in the whole table. -/
def totalLinks (table : SymbolTable) : Nat := ∑ id ∈ table.ids, (table.isa id).length

theorem links_le_totalLinks (table : SymbolTable) {order : List StashId} (distinct : order.Nodup) :
    table.links order ≤ table.totalLinks := by
  rw [links, ← List.sum_toFinset _ distinct, totalLinks]
  refine Finset.sum_le_sum_of_ne_zero fun id _ hsome => mem_ids_of_isa_ne_nil fun hnone => hsome ?_
  rw [hnone, List.length_nil]

/-! ## The recursion ends -/

/-- The classes of the table that were not seen yet. -/
def unseen (table : SymbolTable) (seen : List StashId) : Finset StashId :=
  {id ∈ table.ids | id ∉ seen}

theorem unseen_subset {seen seen' : List StashId} (h : seen ⊆ seen') :
    table.unseen seen' ⊆ table.unseen seen := by
  intro id hid
  obtain ⟨hknown, hunseen⟩ := Finset.mem_filter.1 hid
  exact Finset.mem_filter.2 ⟨hknown, fun hseen => hunseen (h hseen)⟩

theorem card_unseen_lt {seen : List StashId} {id : StashId} (hid : id ∈ table.ids)
    (hnew : id ∉ seen) : (table.unseen (seen ++ [id])).card < (table.unseen seen).card := by
  have hsubset : table.unseen (seen ++ [id]) ⊆ table.unseen seen :=
    unseen_subset (List.subset_append_left seen [id])
  refine Finset.card_lt_card ((Finset.ssubset_iff_of_subset hsubset).2 ⟨id, ?_, ?_⟩)
  · exact Finset.mem_filter.2 ⟨hid, hnew⟩
  · simp [unseen]

/-- **Every walk ends.** The classes not seen become fewer with each one that is entered and has
parents; any other call leaves fewer classes to walk from. How deep a call may be plays no part. -/
theorem exists_walkCalls (table : SymbolTable) (depth : Nat) (pending seen : List StashId) :
    ∃ calls after, table.WalkCalls depth pending seen calls after := by
  match pending with
  | [] => exact ⟨_, _, .done depth seen⟩
  | id :: pending =>
    by_cases hleave : table.maxDepth < depth ∨ id ∈ seen
    · obtain ⟨calls, after, others⟩ := table.exists_walkCalls depth pending seen
      exact ⟨_, _, .leave hleave others⟩
    · obtain ⟨hdepth, hnew⟩ := not_or.1 hleave
      have hmono : (table.unseen (seen ++ [id])).card ≤ (table.unseen seen).card :=
        Finset.card_le_card (unseen_subset (List.subset_append_left seen [id]))
      have hless : table.isa id = [] ∨
          (table.unseen (seen ++ [id])).card < (table.unseen seen).card :=
        (em (table.isa id = [])).imp_right fun hisa =>
          card_unseen_lt (mem_ids_of_isa_ne_nil hisa) hnew
      obtain ⟨inside, between, parents⟩ :=
        table.exists_walkCalls (depth + 1) (table.isa id) (seen ++ [id])
      have hrest : (table.unseen between).card ≤ (table.unseen (seen ++ [id])).card :=
        Finset.card_le_card (unseen_subset parents.begins.subset)
      obtain ⟨calls, after, others⟩ := table.exists_walkCalls depth pending between
      exact ⟨_, _, .enter (Nat.le_of_not_lt hdepth) hnew parents others⟩
termination_by ((table.unseen seen).card, pending.length)
decreasing_by
  · exact Prod.Lex.right _ (by simp)
  · rcases hless with hisa | hless
    · exact Prod.Lex.right' _ hmono (by simp [hisa])
    · exact Prod.Lex.left _ _ hless
  · exact Prod.Lex.right' _ (Nat.le_trans hrest hmono) (by simp)

/-! ## Linear orders -/

/-- The recursion for one class lists its linear order. -/
theorem WalkCalls.eq_linearIsa {id : StashId} {calls : List (StashId × Nat)} {after : List StashId}
    (h : table.WalkCalls 0 [id] [] calls after) : after = table.linearIsa id := h.eq_foldl

theorem grows_linearIsa (table : SymbolTable) (id : StashId) :
    table.Grows id (table.linearIsa id) := by
  obtain ⟨calls, after, hcalls⟩ := table.exists_walkCalls 1 (table.isa id) [id]
  have horder : after = table.linearIsa id := by
    rw [hcalls.eq_foldl, linearIsa_eq]
    rfl
  rw [← horder]
  exact hcalls.grows .start fun parent hparent => ⟨id, List.mem_singleton_self id, hparent⟩

/-- **A walk ends on every table, and lists each class once.** Parents may be repeated, lead in
circles or not be in the table, and the depth may be limited to any number. The recursion has exactly
one course, with one call for the class and one for each parent link of a listed class, so at most one
more than the table has links; and no call is deeper than there are classes listed. The order begins
with the class, has nothing twice, and each of the others comes after a class that lists it as a
parent. -/
theorem linearIsa_lists_once (table : SymbolTable) (id : StashId) :
    (∃ calls, table.WalkCalls 0 [id] [] calls (table.linearIsa id) ∧
      (∀ calls' after, table.WalkCalls 0 [id] [] calls' after →
        calls' = calls ∧ after = table.linearIsa id) ∧
      calls.length = 1 + table.links (table.linearIsa id) ∧
      calls.length ≤ 1 + table.totalLinks ∧
      ∀ call ∈ calls, call.2 ≤ table.maxDepth + 1 ∧ call.2 ≤ (table.linearIsa id).length) ∧
    (table.linearIsa id).head? = some id ∧
    (table.linearIsa id).Nodup ∧
    ∀ before x after, table.linearIsa id = before ++ x :: after → before ≠ [] →
      ∃ child ∈ before, x ∈ table.isa child := by
  have hgrows := table.grows_linearIsa id
  obtain ⟨calls, after, hcalls⟩ := table.exists_walkCalls 0 [id] []
  obtain rfl := hcalls.eq_linearIsa
  have hlength : calls.length = 1 + table.links (table.linearIsa id) := hcalls.length_calls
  have hlinks := table.links_le_totalLinks hgrows.nodup
  refine ⟨⟨calls, hcalls, fun _ _ => hcalls.unique, hlength, by omega,
    hcalls.depth_le (Nat.zero_le _) (Nat.zero_le _)⟩, hgrows.head?_eq, hgrows.nodup, ?_⟩
  exact fun _ _ _ horder hlater => hgrows.exists_child horder hlater

/-- `A` lists `B` twice, itself, and a number that was never given out, and `B` lists `A`. -/
example :
    linearIsa
      { stashes := #[{ name := "A", isa := [⟨1⟩, ⟨1⟩, ⟨0⟩, ⟨7⟩] }, { name := "B", isa := [⟨0⟩] }]
        maxDepth := 100 } ⟨0⟩ = [⟨0⟩, ⟨1⟩, ⟨7⟩] := by decide +kernel

end DynamicValues.SymbolTable
