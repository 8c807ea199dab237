import DynamicValues.Class.SymbolTable
import Mathlib.Logic.Relation

/-!
# The walk over parents

`SymbolTable.walk` is a depth-first search with one list of the classes seen, cut off at a depth. It
is related here to the graph of parent links, `SymbolTable.IsaPath` counting the links of a path:

* a walk **finds nothing but** classes at the end of paths shorter than its depth
  (`exists_isaPath_of_mem_walk`);
* where no path is that long, a walk finds **all** of them (`mem_linearIsa_of_inherits`).

Between the two lies what a walk overlooks. A class that it first meets at its last level keeps its
place in the list, and its parents are not looked at again when a shorter path leads to it, so that
the cut-off and the list together can hide even a class that is near.

`SymbolTable.Meets` follows a walk to the place where it first comes to a class and tells how many
links are left there. The links gone and those left always add up to the depth
(`Meets.exists_isaPath`), and where one is left the class is found with its parents
(`Meets.isa_subset_walk`).
-/

set_option autoImplicit false

namespace DynamicValues.SymbolTable

/-! ## The graph -/

/-- `b` is a parent of `a`. -/
def Parent (table : SymbolTable) (a b : StashId) : Prop := b ∈ table.isa a

/-- A class that is not in the table has no parents. -/
theorem isa_eq_nil {table : SymbolTable} {id : StashId} (h : table.size ≤ id.index) :
    table.isa id = [] := by
  unfold size at h
  simp [isa, get?, h]

/-- `b` is `a` or an ancestor of `a`. -/
def Inherits (table : SymbolTable) : StashId → StashId → Prop := Relation.ReflTransGen table.Parent

/-- `b` is an ancestor of `a`, by one parent link or more. -/
def Ancestor (table : SymbolTable) : StashId → StashId → Prop := Relation.TransGen table.Parent

/-- No class is an ancestor of itself. -/
def Acyclic (table : SymbolTable) : Prop := ∀ id, ¬ table.Ancestor id id

/-- A path of `n` parent links leads from one class to another. -/
inductive IsaPath (table : SymbolTable) : Nat → StashId → StashId → Prop where
  | here (id : StashId) : IsaPath table 0 id id
  | link {n : Nat} {id parent last : StashId} (first : parent ∈ table.isa id)
      (rest : IsaPath table n parent last) : IsaPath table (n + 1) id last

theorem IsaPath.inherits {table : SymbolTable} {n : Nat} {a b : StashId}
    (h : table.IsaPath n a b) : table.Inherits a b := by
  induction h with
  | here id => exact .refl
  | link first _ ih => exact Relation.ReflTransGen.head first ih

theorem IsaPath.trans_link {table : SymbolTable} {n : Nat} {a b parent : StashId} (h : table.IsaPath n a b)
    (hparent : parent ∈ table.isa b) : table.IsaPath (n + 1) a parent := by
  induction h with
  | here id => exact .link hparent (.here parent)
  | link first _ ih => exact .link first (ih hparent)

/-! ## What a walk keeps -/

section Fold

variable {table : SymbolTable} {depth : Nat}

theorem prefix_foldl_walk (ih : ∀ seen id, seen <+: table.walk depth seen id)
    (parents seen : List StashId) : seen <+: parents.foldl (table.walk depth) seen := by
  induction parents generalizing seen with
  | nil => exact List.prefix_rfl
  | cons parent parents ihp => exact (ih seen parent).trans (ihp _)

/-- A walk adds to the end of what was seen. -/
theorem prefix_walk (depth : Nat) (seen : List StashId) (id : StashId) :
    seen <+: table.walk depth seen id := by
  induction depth generalizing seen id with
  | zero => exact List.prefix_rfl
  | succ depth ih =>
    rw [walk]
    split
    · exact List.prefix_rfl
    · exact (List.prefix_append seen [id]).trans (prefix_foldl_walk ih _ _)

/-- A walk forgets nothing that was seen. -/
theorem subset_walk (depth : Nat) (seen : List StashId) (id : StashId) :
    seen ⊆ table.walk depth seen id := (prefix_walk depth seen id).subset

theorem subset_foldl_walk (depth : Nat) (parents seen : List StashId) :
    seen ⊆ parents.foldl (table.walk depth) seen :=
  (prefix_foldl_walk (prefix_walk depth) parents seen).subset

theorem mem_walk_self (depth : Nat) (seen : List StashId) (id : StashId) :
    id ∈ table.walk (depth + 1) seen id := by
  rw [walk]
  split
  · next hmem => exact hmem
  · exact subset_foldl_walk depth _ _ (by simp)

/-- Each parent is found in the walk of the list. -/
theorem mem_foldl_walk_of_mem {parents : List StashId} {parent : StashId} (h : parent ∈ parents)
    (seen : List StashId) : parent ∈ parents.foldl (table.walk (depth + 1)) seen := by
  induction parents generalizing seen with
  | nil => exact absurd h (by simp)
  | cons head parents ih =>
    rw [List.foldl_cons]
    rcases List.mem_cons.1 h with rfl | h
    · exact subset_foldl_walk _ _ _ (mem_walk_self depth seen parent)
    · exact ih h _

/-- A class that the walk of a list of parents adds is added by the walk of one of them. -/
theorem exists_split_of_mem_foldl {parents seen : List StashId} {x : StashId}
    (h : x ∈ parents.foldl (table.walk depth) seen) (hnew : x ∉ seen) :
    ∃ before parent after, parents = before ++ parent :: after ∧
      x ∉ before.foldl (table.walk depth) seen ∧
      x ∈ table.walk depth (before.foldl (table.walk depth) seen) parent := by
  induction parents generalizing seen with
  | nil => exact absurd h hnew
  | cons head parents ih =>
    by_cases hx : x ∈ table.walk depth seen head
    · exact ⟨[], head, parents, rfl, hnew, hx⟩
    · obtain ⟨before, parent, after, rfl, hbefore, hwalk⟩ := ih h hx
      exact ⟨head :: before, parent, after, rfl, hbefore, hwalk⟩

end Fold

/-! ## Where a walk first comes to a class -/

/-- A walk first comes to `x` with `left` links to go. -/
inductive Meets (table : SymbolTable) : Nat → List StashId → StashId → StashId → Nat → Prop where
  | here {depth : Nat} {seen : List StashId} {id : StashId} (fresh : id ∉ seen) :
      Meets table (depth + 1) seen id id depth
  | above {depth left : Nat} {seen before after : List StashId} {id parent x : StashId}
      (fresh : id ∉ seen) (isa_eq : table.isa id = before ++ parent :: after)
      (meets : Meets table depth (before.foldl (table.walk depth) (seen ++ [id])) parent x left) :
      Meets table (depth + 1) seen id x left

variable {table : SymbolTable}

/-- Links gone and links left add up. -/
theorem Meets.exists_isaPath {depth left : Nat} {seen : List StashId} {id x : StashId}
    (h : table.Meets depth seen id x left) : ∃ n, n + left + 1 = depth ∧ table.IsaPath n id x := by
  induction h with
  | here _ => exact ⟨0, by omega, .here _⟩
  | above _ isa_eq _ ih =>
    obtain ⟨n, hn, hpath⟩ := ih
    refine ⟨n + 1, by omega, .link ?_ hpath⟩
    rw [isa_eq]
    exact List.mem_append_right _ List.mem_cons_self

theorem exists_meets {depth : Nat} {seen : List StashId} {id x : StashId}
    (h : x ∈ table.walk depth seen id) (hnew : x ∉ seen) :
    ∃ left, table.Meets depth seen id x left := by
  induction depth generalizing seen id with
  | zero => exact absurd h hnew
  | succ depth ih =>
    rw [walk] at h
    split at h
    · exact absurd h hnew
    · next fresh =>
      -- It is the class itself, or the walk of a parent adds it.
      by_cases hx : x ∈ seen ++ [id]
      · obtain rfl : x = id := by simpa [hnew] using hx
        exact ⟨depth, .here fresh⟩
      · obtain ⟨before, parent, after, hisa, hbefore, hwalk⟩ := exists_split_of_mem_foldl h hx
        obtain ⟨left, hmeets⟩ := ih hwalk hbefore
        exact ⟨left, .above fresh hisa hmeets⟩

/-- A class that is met with a link left is found with its parents. -/
theorem Meets.isa_subset_walk {depth left : Nat} {seen : List StashId} {id x : StashId}
    (h : table.Meets depth seen id x left) (hleft : 0 < left) :
    table.isa x ⊆ table.walk depth seen id := by
  induction h with
  | @here depth seen id fresh =>
    obtain ⟨depth, rfl⟩ := Nat.exists_eq_succ_of_ne_zero (Nat.ne_of_gt hleft)
    rw [walk, if_neg fresh]
    exact fun parent hparent => mem_foldl_walk_of_mem hparent _
  | above fresh isa_eq _ ih =>
    rw [walk, if_neg fresh, isa_eq, List.foldl_append, List.foldl_cons]
    exact List.Subset.trans (ih hleft) (subset_foldl_walk _ _ _)

/-! ## What a walk finds -/

/-- A walk finds only what is near. -/
theorem exists_isaPath_of_mem_walk {depth : Nat} {seen : List StashId} {id x : StashId}
    (h : x ∈ table.walk depth seen id) (hnew : x ∉ seen) :
    ∃ n < depth, table.IsaPath n id x := by
  obtain ⟨left, hmeets⟩ := exists_meets h hnew
  obtain ⟨n, hn, hpath⟩ := hmeets.exists_isaPath
  exact ⟨n, by omega, hpath⟩

/-- No path from `id` has `depth` links or more. -/
def Shallow (table : SymbolTable) (depth : Nat) (id : StashId) : Prop :=
  ∀ n last, table.IsaPath n id last → n < depth

theorem Shallow.parent {depth : Nat} {id parent : StashId} (h : table.Shallow (depth + 1) id)
    (hparent : parent ∈ table.isa id) : table.Shallow depth parent := by
  intro n last hpath
  exact Nat.lt_of_succ_lt_succ (h (n + 1) last (.link hparent hpath))

theorem Shallow.pos {depth : Nat} {id : StashId} (h : table.Shallow depth id) : 0 < depth :=
  h 0 id (.here id)

/-- What a walk adds, it adds with its parents, if it is not cut off. -/
theorem isa_subset_walk {depth : Nat} {seen : List StashId} {id x : StashId}
    (shallow : table.Shallow depth id) (h : x ∈ table.walk depth seen id) (hnew : x ∉ seen) :
    table.isa x ⊆ table.walk depth seen id := by
  intro parent hparent
  obtain ⟨left, hmeets⟩ := exists_meets h hnew
  obtain ⟨n, hn, hpath⟩ := hmeets.exists_isaPath
  -- The link to the parent is still within the depth, so one was left.
  have hlink : n + 1 < depth := shallow (n + 1) parent (hpath.trans_link hparent)
  exact hmeets.isa_subset_walk (by omega) hparent

/-! ## Linear orders -/

/-- The class is listed, and then its parents are walked from. -/
theorem linearIsa_eq (table : SymbolTable) (id : StashId) :
    table.linearIsa id = (table.isa id).foldl (table.walk table.maxDepth) [id] := by
  rw [linearIsa, walk, if_neg List.not_mem_nil]
  rfl

theorem inherits_of_mem_linearIsa {id x : StashId} (h : x ∈ table.linearIsa id) :
    table.Inherits id x := by
  obtain ⟨n, -, hpath⟩ := exists_isaPath_of_mem_walk h (by simp)
  exact hpath.inherits

theorem mem_linearIsa_self (id : StashId) : id ∈ table.linearIsa id := mem_walk_self _ _ _

/-- Where no path is longer than the walk is deep, the linear order holds every ancestor. -/
theorem mem_linearIsa_of_inherits {id x : StashId} (shallow : table.Shallow (table.maxDepth + 1) id)
    (h : table.Inherits id x) : x ∈ table.linearIsa id := by
  induction h with
  | refl => exact mem_linearIsa_self id
  | tail _ hparent ih => exact isa_subset_walk shallow ih (by simp) hparent

end DynamicValues.SymbolTable
