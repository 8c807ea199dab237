import DynamicValues.Proofs.Class.Changes
import Mathlib.Data.Fintype.EquivFin

/-!
# Method lookup is a plain search

A walk keeps a list of the classes seen and passes by a class that is in it already.
`SymbolTable.search` keeps no list: it looks into a class and then, one parent after the other, into
all that each of them inherits from, as often as it comes there. It ends because a hierarchy free of
cycles is well founded (`Acyclic.wellFounded`).

The two find the same (`findMethod_eq_resolve`). A class that a walk passes by was seen **with all
that it inherits from** (`SeenWhole`), for the classes that the walk is still in the middle of do
not come up again where there are no cycles. So nothing is passed by that would not have been searched
in vain. The list of a walk is therefore searched like the classes seen before it and then the class,
which is the one induction on walks (`walk_adds`), over the depth and inside it over the parents.
-/

set_option autoImplicit false

namespace DynamicValues.SymbolTable

variable {table : SymbolTable}

/-! ## Well-founded hierarchies -/

instance : Finite StashId :=
  .of_injective (fun id => (⟨id.index, id.index_lt⟩ : Fin UInt32.size)) fun _ _ h =>
    StashId.index_inj.1 (congrArg Fin.val h)

/-- There are finitely many numbers of classes, so that without cycles every way up ends. -/
theorem Acyclic.wellFounded (acyclic : table.Acyclic) :
    WellFounded fun parent id => table.Parent id parent := by
  have : IsTrans StashId fun a b => table.Ancestor b a :=
    ⟨fun _ _ _ hab hbc => Relation.TransGen.trans hbc hab⟩
  have : Std.Irrefl fun a b => table.Ancestor b a := ⟨acyclic⟩
  have hancestor : WellFounded fun a b => table.Ancestor b a :=
    Finite.wellFounded_of_trans_of_irrefl _
  exact Subrelation.wf (fun hparent => .single hparent) hancestor

/-! ## The plain search -/

/-- The method of a name in a class, or else in the first of its parents whose own search finds
one. -/
def search (table : SymbolTable) (acyclic : table.Acyclic) (name : String) (id : StashId) :
    Option Value :=
  match table.method id name with
  | some code => some code
  | none => (table.isa id).attach.findSome? fun parent => table.search acyclic name parent.1
termination_by acyclic.wellFounded.wrap id
decreasing_by exact parent.2

/-- The plain search from a class and, if that finds nothing, from `UNIVERSAL`. -/
def resolve (table : SymbolTable) (acyclic : table.Acyclic) (id : StashId) (name : String) :
    Option Value :=
  (table.search acyclic name id).or
    ((table.lookup universalName).bind (table.search acyclic name))

theorem search_eq (acyclic : table.Acyclic) (name : String) (id : StashId) :
    table.search acyclic name id =
      (table.method id name).or ((table.isa id).findSome? (table.search acyclic name)) := by
  rw [search]
  cases table.method id name with
  | some code => rfl
  | none =>
    rw [Option.none_or, List.findSome?_subtype (fun _ _ => rfl), List.unattach_attach]

/-- A search is in vain exactly if no class that it comes to has the method. -/
theorem search_eq_none_iff {acyclic : table.Acyclic} {name : String} {id : StashId} :
    table.search acyclic name id = none ↔ ∀ x, table.Inherits id x → table.method x name = none := by
  induction id using acyclic.wellFounded.induction with
  | _ id ih =>
    rw [search_eq, Option.or_eq_none_iff, List.findSome?_eq_none_iff]
    constructor
    · rintro ⟨hown, hparents⟩ x hx
      rcases Relation.ReflTransGen.cases_head hx with rfl | ⟨parent, hparent, hrest⟩
      · exact hown
      · exact (ih parent hparent).1 (hparents parent hparent) x hrest
    · intro hall
      refine ⟨hall id .refl, fun parent hparent => ?_⟩
      exact (ih parent hparent).2 fun x hx => hall x (.head hparent hx)

/-! ## What a walk passes by -/

/-- Whatever was seen of the classes that `id` inherits from was seen with all that it inherits
from in turn. -/
def SeenWhole (table : SymbolTable) (seen : List StashId) (id : StashId) : Prop :=
  ∀ x ∈ seen, table.Inherits id x → ∀ y, table.Inherits x y → y ∈ seen

theorem seenWhole_nil (id : StashId) : table.SeenWhole [] id := by
  intro x hx
  exact absurd hx List.not_mem_nil

/-- The class that a walk is at does not come up again above its parents. -/
theorem SeenWhole.parent (acyclic : table.Acyclic) {seen : List StashId} {id parent : StashId}
    (whole : table.SeenWhole seen id) (hparent : parent ∈ table.isa id) :
    table.SeenWhole (seen ++ [id]) parent := by
  intro x hx hinherits y hy
  rcases List.mem_append.1 hx with hseen | hself
  · exact List.mem_append_left _ (whole x hseen (.head hparent hinherits) y hy)
  · rw [List.mem_singleton] at hself
    subst hself
    exact absurd (Relation.TransGen.head' hparent hinherits) (acyclic x)

/-- What a walk adds, it adds with all that it inherits from, if it covers what `parent` inherits
from. -/
theorem SeenWhole.walk {depth : Nat} {seen : List StashId} {parent other : StashId}
    (whole : table.SeenWhole seen other)
    (covers : ∀ y, table.Inherits parent y → y ∈ table.walk depth seen parent) :
    table.SeenWhole (table.walk depth seen parent) other := by
  intro x hx hinherits y hy
  by_cases hseen : x ∈ seen
  · exact subset_walk depth seen parent (whole x hseen hinherits y hy)
  · obtain ⟨n, -, hpath⟩ := exists_isaPath_of_mem_walk hx hseen
    exact covers y (hpath.inherits.trans hy)

/-! ## What a walk adds -/

/-- The list `after` has all that the classes `ids` inherit from added to it, in an order that finds
methods as the plain searches of `ids` do. -/
structure Adds (table : SymbolTable) (acyclic : table.Acyclic) (ids before after : List StashId) :
    Prop where
  keeps : before ⊆ after
  covers : ∀ id ∈ ids, ∀ y, table.Inherits id y → y ∈ after
  searches : ∀ name, after.findSome? (table.method · name) =
    (before.findSome? (table.method · name)).or (ids.findSome? (table.search acyclic name))

namespace Adds

variable {acyclic : table.Acyclic} {id : StashId} {ids before between after : List StashId}

theorem nil (before : List StashId) : table.Adds acyclic [] before before where
  keeps := List.Subset.refl _
  covers := by
    intro id hid
    exact absurd hid List.not_mem_nil
  searches := by
    intro name
    rw [List.findSome?_nil, Option.or_none]

theorem cons (first : table.Adds acyclic [id] before between)
    (rest : table.Adds acyclic ids between after) : table.Adds acyclic (id :: ids) before after where
  keeps := List.Subset.trans first.keeps rest.keeps
  covers := by
    intro other hother y hy
    rcases List.mem_cons.1 hother with rfl | hother
    · exact rest.keeps (first.covers other List.mem_cons_self y hy)
    · exact rest.covers other hother y hy
  searches := by
    intro name
    rw [rest.searches name, first.searches name, Option.or_assoc, ← List.findSome?_append]
    rfl

/-- A class that was seen with all that it inherits from has nothing to add. -/
theorem of_seen (whole : table.SeenWhole before id) (hseen : id ∈ before) :
    table.Adds acyclic [id] before before where
  keeps := List.Subset.refl _
  covers := by
    intro other hother y hy
    obtain rfl := List.mem_singleton.1 hother
    exact whole other hseen .refl y hy
  searches := by
    intro name
    cases hbefore : before.findSome? (table.method · name) with
    | some code => rfl
    | none =>
      -- The search from the class would be in vain, for it comes to classes seen only.
      have hvain : table.search acyclic name id = none := by
        rw [search_eq_none_iff]
        intro x hx
        exact List.findSome?_eq_none_iff.1 hbefore x (whole id hseen .refl x hx)
      simp [hvain]

/-- A class adds itself and then what its parents add. -/
theorem of_parents (h : table.Adds acyclic (table.isa id) (before ++ [id]) after) :
    table.Adds acyclic [id] before after where
  keeps := List.Subset.trans (List.subset_append_left _ _) h.keeps
  covers := by
    intro other hother y hy
    obtain rfl := List.mem_singleton.1 hother
    rcases Relation.ReflTransGen.cases_head hy with rfl | ⟨parent, hparent, hrest⟩
    · exact h.keeps (by simp)
    · exact h.covers parent hparent y hrest
  searches := by
    intro name
    rw [h.searches name, List.findSome?_append, Option.or_assoc, List.findSome?_singleton,
      List.findSome?_singleton, search_eq acyclic name id]

end Adds

section Walk

variable {acyclic : table.Acyclic} {depth : Nat}

/-- The walks of a list of parents, one after the other. -/
theorem foldl_walk_adds
    (step : ∀ seen id, table.Shallow depth id → table.SeenWhole seen id →
      table.Adds acyclic [id] seen (table.walk depth seen id))
    {parents seen : List StashId} (shallow : ∀ parent ∈ parents, table.Shallow depth parent)
    (whole : ∀ parent ∈ parents, table.SeenWhole seen parent) :
    table.Adds acyclic parents seen (parents.foldl (table.walk depth) seen) := by
  induction parents generalizing seen with
  | nil => exact .nil seen
  | cons parent parents ih =>
    have hfirst : table.Adds acyclic [parent] seen (table.walk depth seen parent) :=
      step seen parent (shallow parent List.mem_cons_self) (whole parent List.mem_cons_self)
    refine hfirst.cons (ih (fun other hother => shallow other (List.mem_cons_of_mem _ hother)) ?_)
    intro other hother
    exact (whole other (List.mem_cons_of_mem _ hother)).walk (hfirst.covers parent List.mem_cons_self)

/-- **A walk that is not cut off adds what the plain search comes to.** -/
theorem walk_adds {seen : List StashId} {id : StashId} (shallow : table.Shallow depth id)
    (whole : table.SeenWhole seen id) :
    table.Adds acyclic [id] seen (table.walk depth seen id) := by
  induction depth generalizing seen id with
  | zero => exact absurd shallow.pos (Nat.lt_irrefl 0)
  | succ depth ih =>
    rw [walk]
    split
    · next hseen => exact .of_seen whole hseen
    · refine .of_parents (foldl_walk_adds (fun _ _ => ih) ?_ ?_)
      · intro parent hparent
        exact shallow.parent hparent
      · intro parent hparent
        exact whole.parent acyclic hparent

end Walk

/-- The linear order of a class is searched as the class is. -/
theorem findSome?_linearIsa (acyclic : table.Acyclic) {id : StashId}
    (shallow : table.Shallow (table.maxDepth + 1) id) (name : String) :
    (table.linearIsa id).findSome? (table.method · name) = table.search acyclic name id := by
  have hadds : table.Adds acyclic [id] [] (table.linearIsa id) :=
    walk_adds shallow (seenWhole_nil id)
  rw [hadds.searches name, List.findSome?_nil, Option.none_or, List.findSome?_singleton]

/-! ## Method lookup -/

/-- **Method lookup finds what the plain search finds**, from a class and from `UNIVERSAL`, if the
hierarchy is free of cycles and no path from either has more links than a walk follows. -/
theorem findMethod_eq_resolve {id : StashId} (acyclic : table.Acyclic)
    (near : ∀ n last, table.IsaPath n id last → n ≤ table.maxDepth)
    (nearRoot : ∀ root, table.lookup universalName = some root →
      ∀ n last, table.IsaPath n root last → n ≤ table.maxDepth) (name : String) :
    table.findMethod id name = table.resolve acyclic id name := by
  have shallow : table.Shallow (table.maxDepth + 1) id :=
    fun n last hpath => Nat.lt_succ_of_le (near n last hpath)
  have hfound := findSome?_linearIsa acyclic shallow name
  unfold findMethod resolve
  simp only [hfound]
  cases hsearch : table.search acyclic name id with
  | some code => rfl
  | none =>
    cases hroot : table.lookup universalName with
    | none => rfl
    | some root =>
      have hshallow : table.Shallow (table.maxDepth + 1) root :=
        fun n last hpath => Nat.lt_succ_of_le (nearRoot root hroot n last hpath)
      show (if (table.linearIsa id).contains root then none
        else (table.linearIsa root).findSome? (table.method · name)) = table.search acyclic name root
      by_cases hmet : root ∈ table.linearIsa id
      · -- The search came to `UNIVERSAL` on its way, and found nothing there either.
        rw [if_pos (by simpa using hmet)]
        refine Eq.symm (search_eq_none_iff.2 fun x hx => ?_)
        exact search_eq_none_iff.1 hsearch x ((inherits_of_mem_linearIsa hmet).trans hx)
      · rw [if_neg (by simpa using hmet)]
        exact findSome?_linearIsa acyclic hshallow name

/-! ## Numbered hierarchies -/

/-- Every parent has a smaller number than the class, so that it was made before it. -/
def Numbered (table : SymbolTable) : Prop :=
  ∀ i < table.size, ∀ id ∈ StashId.ofIndex? i, ∀ parent ∈ table.isa id, parent.index < i

instance (table : SymbolTable) : Decidable table.Numbered :=
  inferInstanceAs (Decidable
    (∀ i < table.size, ∀ id ∈ StashId.ofIndex? i, ∀ parent ∈ table.isa id, parent.index < i))

theorem Numbered.index_lt (numbered : table.Numbered) {id parent : StashId}
    (hparent : parent ∈ table.isa id) : parent.index < id.index := by
  by_cases hin : id.index < table.size
  · exact numbered id.index hin id (StashId.ofIndex?_eq_some_iff.2 rfl) parent hparent
  · rw [isa_eq_nil (Nat.le_of_not_lt hin)] at hparent
    exact absurd hparent List.not_mem_nil

theorem Numbered.acyclic (numbered : table.Numbered) : table.Acyclic := by
  have hlt : ∀ a b, table.Ancestor a b → b.index < a.index := by
    intro a b hab
    induction hab with
    | single hstep => exact numbered.index_lt hstep
    | tail _ hstep ih => exact Nat.lt_trans (numbered.index_lt hstep) ih
  intro id hcycle
  exact Nat.lt_irrefl _ (hlt id id hcycle)

theorem Numbered.isaPath_le (numbered : table.Numbered) {n : Nat} {id last : StashId}
    (h : table.IsaPath n id last) : n ≤ id.index := by
  induction h with
  | here id => exact Nat.zero_le _
  | link hparent _ ih => exact Nat.succ_le_of_lt (Nat.lt_of_le_of_lt ih (numbered.index_lt hparent))

/-- A class with the parents `Left`, `Right` and `Left` again, both over `Base`, which has
`UNIVERSAL` for a parent of its own. The method of `UNIVERSAL` comes before the one of `Right`. -/
def twoSides : SymbolTable :=
  (ClassChange.run
    [.intern "UNIVERSAL", .intern "Base", .intern "Left", .intern "Right", .intern "Leaf",
      .setIsa ⟨1⟩ [⟨0⟩], .setIsa ⟨2⟩ [⟨1⟩], .setIsa ⟨3⟩ [⟨1⟩, ⟨0⟩], .setIsa ⟨4⟩ [⟨2⟩, ⟨3⟩, ⟨2⟩],
      .defineMethod ⟨0⟩ "name" ⟨10⟩, .defineMethod ⟨3⟩ "name" ⟨13⟩]
    { (default : World) with classes := .empty 100 }).classes

theorem findMethod_eq_resolve_twoSides :
    ∃ acyclic : twoSides.Acyclic,
      (∀ n last, twoSides.IsaPath n ⟨4⟩ last → n ≤ twoSides.maxDepth) ∧
      (∀ root, twoSides.lookup universalName = some root →
        ∀ n last, twoSides.IsaPath n root last → n ≤ twoSides.maxDepth) ∧
      twoSides.findMethod ⟨4⟩ "name" = some ⟨10⟩ ∧
      twoSides.resolve acyclic ⟨4⟩ "name" = some ⟨10⟩ := by
  have numbered : twoSides.Numbered := by decide +kernel
  have hroot : twoSides.lookup universalName = some ⟨0⟩ := by decide +kernel
  have hdepth : twoSides.maxDepth = 100 := by decide +kernel
  have hfound : twoSides.findMethod ⟨4⟩ "name" = some ⟨10⟩ := by decide +kernel
  have near : ∀ n last, twoSides.IsaPath n ⟨4⟩ last → n ≤ twoSides.maxDepth := by
    intro n last hpath
    exact Nat.le_trans (numbered.isaPath_le hpath) (by rw [hdepth]; decide)
  have nearRoot : ∀ root, twoSides.lookup universalName = some root →
      ∀ n last, twoSides.IsaPath n root last → n ≤ twoSides.maxDepth := by
    intro root hlookup n last hpath
    rw [hroot] at hlookup
    obtain rfl := Option.some.inj hlookup
    exact Nat.le_trans (numbered.isaPath_le hpath) (Nat.zero_le _)
  refine ⟨numbered.acyclic, near, nearRoot, hfound, ?_⟩
  rw [← findMethod_eq_resolve numbered.acyclic near nearRoot]
  exact hfound

end DynamicValues.SymbolTable
